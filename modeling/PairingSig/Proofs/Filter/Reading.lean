import Mathlib.Algebra.GroupWithZero.Nat
import Mathlib.Data.List.DropRight
import PairingSig.Filter
import PairingSig.Proofs.Filter.LevelText

/-!
# Filters that are read

A filter may be written as directives between commas, each of them a level, a target or a target
with a level. The reader looks for signs in the trimmed text and takes what stands between them from
the same places, in bytes, of the whole text.

- **Characters**: `BeginsTarget`, and `not_isBlank` for what the trimming leaves alone;
- **Places**: `utf8Length`, and `dropBytes?_append` and `takeBytes?_append` for the places between
  the parts of a text;
- **Directives**: `Directive.Reading` says without the reader what a part means, and
  `Reading.ofText?_eq` that the reader agrees;
- **Lists**: `Filter.Listing` for whole texts, with `Listing.parse_eq` and
  `Listing.parseStrict?_eq`.
-/

namespace PairingSig

/-! ## Characters -/

namespace Text

theorem isAlphanumeric_of_isPlain {c : Char} (h : IsPlain c) : isAlphanumeric c = true := by
  have hrange : ∀ {ranges : List CodeRange} (r : CodeRange), r ∈ ranges → r.1 ≤ c.toNat →
      c.toNat ≤ r.2 → inRanges ranges c.toNat = true := by
    intro ranges r hr hfirst hlast
    refine List.any_eq_true.2 ⟨r, hr, ?_⟩
    simp [hfirst, hlast]
  rw [isAlphanumeric, Bool.or_eq_true]
  rcases h with ⟨hfirst, hlast⟩ | ⟨hfirst, hlast⟩ | ⟨hfirst, hlast⟩
  · exact .inr (hrange (0x30, 0x39) (List.Mem.head _) hfirst hlast)
  · exact .inl (hrange (0x41, 0x5a) (List.Mem.head _) hfirst hlast)
  · exact .inl (hrange (0x61, 0x7a) (List.Mem.tail _ (List.Mem.head _)) hfirst hlast)

/-- The code points of some ranges, one by one. -/
def codes (ranges : List CodeRange) : List Nat :=
  ranges.flatMap fun r => List.range' r.1 (r.2 + 1 - r.1)

theorem mem_codes {ranges : List CodeRange} {n : Nat} (h : inRanges ranges n = true) :
    n ∈ codes ranges := by
  obtain ⟨r, hr, hn⟩ := List.any_eq_true.1 h
  simp only [Bool.and_eq_true, decide_eq_true_iff] at hn
  refine List.mem_flatMap.2 ⟨r, hr, ?_⟩
  rw [List.mem_range'_1]
  omega

end Text

namespace Directive

/-- The characters that a target may begin with. -/
def BeginsTarget (c : Char) : Prop :=
  Text.isAlphanumeric c = true ∨ c = '_' ∨ c = ':' ∨ c = '-'

/-- Blanks are neither letters nor numbers, nor any of the other characters that begin a target. -/
theorem BeginsTarget.not_isBlank {c : Char} (h : BeginsTarget c) : Text.isBlank c = false := by
  -- The blanks are few enough to look at each of them.
  have hblanks : ∀ n ∈ Text.codes Text.blankRanges, Text.inRanges Text.alphabeticRanges n = false ∧
      Text.inRanges Text.numericRanges n = false ∧ n ≠ 95 ∧ n ≠ 58 ∧ n ≠ 45 := by
    decide +kernel
  rw [← Bool.not_eq_true]
  intro hblank
  obtain ⟨halphabetic, hnumeric, hothers⟩ := hblanks c.toNat (Text.mem_codes hblank)
  rcases h with h | rfl | rfl | rfl
  · rw [Text.isAlphanumeric, Text.isAlphabetic, Text.isNumeric, halphabetic, hnumeric] at h
    exact Bool.false_ne_true h
  -- An underscore, a colon or a hyphen is none of them either.
  all_goals simp at hothers

end Directive

/-! ## Places -/

namespace Text

theorem trim_eq (cs : List Char) :
    trim cs = List.rdropWhile isBlank (cs.dropWhile isBlank) := rfl

/-- A text that begins with no blank keeps its first character. -/
theorem exists_trim_cons {c : Char} (rest : List Char) (h : isBlank c = false) :
    ∃ kept, trim (c :: rest) = c :: kept ∧ c :: kept <+: c :: rest := by
  have htrim : trim (c :: rest) = List.rdropWhile isBlank (c :: rest) := by
    simp [trim_eq, h]
  have hprefix := List.rdropWhile_prefix isBlank (c :: rest)
  -- The first character is kept, so what is kept begins with it.
  have hne : List.rdropWhile isBlank (c :: rest) ≠ [] := by
    intro hnil
    have hblank := List.rdropWhile_eq_nil_iff.1 hnil c List.mem_cons_self
    exact Bool.false_ne_true (h.symm.trans hblank)
  obtain ⟨first, kept, hkept⟩ := List.exists_cons_of_ne_nil hne
  rw [hkept] at hprefix
  obtain rfl := (List.cons_prefix_cons.1 hprefix).1
  exact ⟨kept, htrim.trans hkept, hprefix⟩

/-- A text with no blank at its ends stays as it is. -/
theorem trim_eq_self {cs : List Char} {c d : Char} (hfirst : cs.head? = some c)
    (hc : isBlank c = false) (hlast : cs.getLast? = some d) (hd : isBlank d = false) :
    trim cs = cs := by
  obtain ⟨rest, rfl⟩ : ∃ rest, cs = c :: rest := List.head?_eq_some_iff.1 hfirst
  obtain ⟨front, hfront⟩ : ∃ front, c :: rest = front ++ [d] := List.getLast?_eq_some_iff.1 hlast
  have hdrop : (c :: rest).dropWhile isBlank = front ++ [d] := by
    simpa [hc] using hfront
  rw [trim_eq, hdrop, List.rdropWhile_concat_neg isBlank front d (by simp [hd]), hfront]

/-- How many bytes a text has. -/
def utf8Length (cs : List Char) : Nat :=
  (cs.map Char.utf8Size).sum

theorem placed_append (place : Nat) (as bs : List Char) :
    placed place (as ++ bs) = placed place as ++ placed (place + utf8Length as) bs := by
  induction as generalizing place with
  | nil => rfl
  | cons a as ih => simp [placed, ih, utf8Length, Nat.add_assoc]

theorem map_fst_placed (place : Nat) (cs : List Char) : (placed place cs).map Prod.fst = cs := by
  induction cs generalizing place with
  | nil => rfl
  | cons c cs ih => simp [placed, ih]

theorem exists_succ_utf8Size (c : Char) (n : Nat) : ∃ k, c.utf8Size + n = k + 1 :=
  Nat.exists_eq_succ_of_ne_zero (Nat.ne_of_gt (Nat.add_pos_left c.utf8Size_pos n))

theorem dropBytes?_cons (c : Char) (cs : List Char) (n : Nat) :
    dropBytes? (c.utf8Size + n) (c :: cs) = dropBytes? n cs := by
  obtain ⟨k, hk⟩ := exists_succ_utf8Size c n
  rw [hk, dropBytes?, if_pos (by omega), ← hk, Nat.add_sub_cancel_left]

theorem takeBytes?_cons (c : Char) (cs : List Char) (n : Nat) :
    takeBytes? (c.utf8Size + n) (c :: cs) = (takeBytes? n cs).map (c :: ·) := by
  obtain ⟨k, hk⟩ := exists_succ_utf8Size c n
  rw [hk, takeBytes?, if_pos (by omega), ← hk, Nat.add_sub_cancel_left]

theorem dropBytes?_append (as bs : List Char) :
    dropBytes? (utf8Length as) (as ++ bs) = some bs := by
  induction as with
  | nil => simp [utf8Length, dropBytes?]
  | cons a as ih => exact (dropBytes?_cons a (as ++ bs) (utf8Length as)).trans ih

theorem takeBytes?_append (as bs : List Char) :
    takeBytes? (utf8Length as) (as ++ bs) = some as := by
  induction as with
  | nil => simp [utf8Length, takeBytes?]
  | cons a as ih =>
    refine (takeBytes?_cons a (as ++ bs) (utf8Length as)).trans ?_
    rw [ih, Option.map_some]

/-- Up to the place behind a part, a text holds this part. -/
theorem byteRange?_append (as bs : List Char) :
    byteRange? 0 (utf8Length as) (as ++ bs) = some as := by
  have hdrop : dropBytes? 0 (as ++ bs) = some (as ++ bs) := by simp [dropBytes?]
  rw [byteRange?, hdrop]
  exact takeBytes?_append as bs

end Text

namespace LaidOut

theorem not_sign_of_placed {signs as : List Char} (has : ∀ c ∈ as, c ∉ signs) (place : Nat) :
    ∀ x ∈ Text.placed place as, (!signs.contains x.1) = true := by
  intro x hx
  have hmem : x.1 ∈ as := Text.map_fst_placed place as ▸ List.mem_map_of_mem hx
  simpa using has x.1 hmem

/-- A text is split at its first sign. -/
theorem splitAt_append {signs as : List Char} {sign : Char} (has : ∀ c ∈ as, c ∉ signs)
    (hsign : sign ∈ signs) (bs : List Char) (place : Nat) :
    splitAt signs (Text.placed place (as ++ sign :: bs)) =
      (Text.placed place as, (sign, place + Text.utf8Length as) ::
        Text.placed (place + Text.utf8Length as + sign.utf8Size) bs) := by
  have hbefore := not_sign_of_placed has place
  rw [splitAt, Text.placed_append, List.takeWhile_append_of_pos hbefore,
    List.dropWhile_append_of_pos hbefore]
  simp [Text.placed, hsign]

theorem splitAt_of_no_sign {signs as : List Char} (has : ∀ c ∈ as, c ∉ signs) (place : Nat) :
    splitAt signs (Text.placed place as) = (Text.placed place as, []) := by
  have hall := not_sign_of_placed has place
  rw [splitAt, List.takeWhile_eq_self_iff.2 hall, List.dropWhile_eq_nil_iff.2 hall]

end LaidOut

/-! ## Directives -/

namespace Directive

/-- A text that may stand as a target: it begins like one, and has no sign in it. -/
structure IsTarget (cs : List Char) : Prop where
  begins : ∃ c rest, cs = c :: rest ∧ BeginsTarget c
  unsigned : ∀ c ∈ cs, c ≠ ',' ∧ c ≠ '=' ∧ c ≠ '['

/-- What one part of a filter means. -/
inductive Reading : List Char → Directive → Prop where
  /-- A level alone is for all targets. -/
  | level {cs : List Char} {l : Level} : l.Spelling cs → Reading cs ⟨[], .all, l⟩
  /-- A target may have a level of its own. -/
  | limited {target cs : List Char} {l : Level} :
      IsTarget target → l.Spelling cs → Reading (target ++ '=' :: cs) ⟨target, .all, l⟩
  /-- Of a target alone everything is shown. -/
  | bare {target : List Char} :
      IsTarget target → (∀ l : Level, ¬ l.Spelling target) → Reading target ⟨target, .all, .trace⟩

theorem startsTarget_placed {c : Char} (h : BeginsTarget c) (rest : List Char) (place : Nat) :
    startsTarget (Text.placed place (c :: rest)) = true := by
  rcases h with h | rfl | rfl | rfl <;> simp [startsTarget, Text.placed, *]

theorem not_beginsTarget_plus : ¬ BeginsTarget '+' := by
  unfold BeginsTarget
  decide +kernel

theorem beginsTarget_of_isPlain {c : Char} (h : Text.IsPlain c) : BeginsTarget c :=
  .inl (Text.isAlphanumeric_of_isPlain h)

/-- A level could be a target by its characters. -/
theorem isTarget_of_spelling {cs : List Char} {l : Level} (h : l.Spelling cs) : IsTarget cs where
  begins := by
    obtain ⟨c, rest, rfl⟩ := List.exists_cons_of_ne_nil h.ne_nil
    exact ⟨c, rest, rfl, beginsTarget_of_isPlain (h.isPlain List.mem_cons_self)⟩
  unsigned := by
    intro c hc
    have hplain := h.isPlain hc
    unfold Text.IsPlain at hplain
    refine ⟨?_, ?_, ?_⟩ <;> rintro rfl <;> simp at hplain

theorem IsTarget.not_sign {cs : List Char} (h : IsTarget cs) : ∀ c ∈ cs, c ∉ ['=', '['] := by
  intro c hc
  obtain ⟨-, hequals, hbracket⟩ := h.unsigned c hc
  simp [hequals, hbracket]

/-- A text without signs is read as it stands. -/
theorem ofText?_of_isTarget {cs : List Char} (h : IsTarget cs) : ofText? cs = some (ofBare cs) := by
  obtain ⟨c, rest, rfl, hc⟩ := h.begins
  -- Blanks at the end are cut off; what is kept has no sign in it either.
  obtain ⟨kept, htrim, hkept⟩ := Text.exists_trim_cons rest hc.not_isBlank
  have hsplit := LaidOut.splitAt_of_no_sign (fun d hd => h.not_sign d (hkept.subset hd)) 0
  rw [ofText?, LaidOut.ofText, htrim, hsplit]
  simp [startsTarget_placed hc kept 0]

/-- Behind an equals sign the level is read. -/
theorem levelAt?_of_spelling (target : List Char) {cs : List Char} {l : Level}
    (hl : l.Spelling cs) :
    levelAt? (Text.utf8Length target) (target ++ '=' :: cs) = some l := by
  -- The level stands one byte behind the end of the target.
  have hplace : Text.utf8Length target + 1 = Text.utf8Length (target ++ ['=']) := by
    have hsize : '='.utf8Size = 1 := rfl
    simp [Text.utf8Length, hsize]
  have hdrop := Text.dropBytes?_append (target ++ ['=']) cs
  rw [List.append_assoc, List.singleton_append] at hdrop
  rw [levelAt?, hplace, hdrop, Option.bind_some, levelAfter?]
  simp [hl.ne_nil, hl.ofText?_eq]

/-- A text with an equals sign is read in two parts. -/
theorem ofText?_equals {target cs : List Char} {l : Level} (htarget : IsTarget target)
    (hl : l.Spelling cs) : ofText? (target ++ '=' :: cs) = some ⟨target, .all, l⟩ := by
  obtain ⟨c, rest, hcons, hc⟩ := htarget.begins
  -- The target has no blank at its beginning, nor has the level one at its end.
  have htrim : Text.trim (target ++ '=' :: cs) = target ++ '=' :: cs := by
    have hlast := hl.isPlain (List.getLast_mem hl.ne_nil)
    refine Text.trim_eq_self (c := c) ?_ hc.not_isBlank (d := cs.getLast hl.ne_nil) ?_
      (beginsTarget_of_isPlain hlast).not_isBlank
    · simp [hcons]
    · simp [List.getLast?_cons, List.getLast?_eq_some_getLast hl.ne_nil]
  have hsplit := LaidOut.splitAt_append htarget.not_sign (List.Mem.head _) cs 0
  have hstarts : startsTarget (Text.placed 0 target) = true := by
    rw [hcons]
    exact startsTarget_placed hc rest 0
  rw [ofText?, LaidOut.ofText, htrim, hsplit]
  simp [hstarts, Text.byteRange?_append, levelAt?_of_spelling target hl]

theorem Reading.ofText?_eq {cs : List Char} {d : Directive} (h : Reading cs d) :
    ofText? cs = some d := by
  cases h with
  | level hl => rw [ofText?_of_isTarget (isTarget_of_spelling hl), ofBare, hl.ofText?_eq]
  | limited htarget hl => exact ofText?_equals htarget hl
  | bare htarget hnone =>
    have hplus : cs.head? ≠ some '+' := by
      obtain ⟨c, rest, rfl, hc⟩ := htarget.begins
      intro hplus
      cases hplus
      exact not_beginsTarget_plus hc
    -- A bare target is no level, so its level is that of everything.
    have hlevel : Level.ofText? cs = none := by
      rw [Option.eq_none_iff_forall_ne_some]
      exact fun l hl => hnone l ((Level.ofText?_eq_some_iff hplus l).1 hl)
    rw [ofText?_of_isTarget htarget, ofBare, hlevel]

theorem Reading.scope_eq {cs : List Char} {d : Directive} (h : Reading cs d) : d.scope = .all := by
  cases h <;> rfl

theorem Reading.ne_nil {cs : List Char} {d : Directive} (h : Reading cs d) : cs ≠ [] := by
  cases h with
  | level hl => exact hl.ne_nil
  | limited htarget hl => simp
  | bare htarget hnone =>
    obtain ⟨c, rest, rfl, -⟩ := htarget.begins
    simp

theorem Reading.ne_comma {cs : List Char} {d : Directive} (h : Reading cs d) :
    ∀ c ∈ cs, c ≠ ',' := by
  cases h with
  | level hl => exact fun c hc => ((isTarget_of_spelling hl).unsigned c hc).1
  | limited htarget hl =>
    intro c hc
    -- Before the sign, at it, or behind it.
    rcases List.mem_append.1 hc with hc | hc
    · exact (htarget.unsigned c hc).1
    · rcases List.mem_cons.1 hc with rfl | hc
      · decide
      · exact ((isTarget_of_spelling hl).unsigned c hc).1
  | bare htarget hnone => exact fun c hc => (htarget.unsigned c hc).1

end Directive

/-! ## Lists -/

theorem commaParts_of_ne_comma {cs : List Char} (h : ∀ c ∈ cs, c ≠ ',') : commaParts cs = [cs] := by
  induction cs with
  | nil => rfl
  | cons c cs ih =>
    rw [List.forall_mem_cons] at h
    simp [commaParts, h.1, ih h.2]

theorem commaParts_append {cs : List Char} (h : ∀ c ∈ cs, c ≠ ',') (rest : List Char) :
    commaParts (cs ++ ',' :: rest) = cs :: commaParts rest := by
  induction cs with
  | nil => simp [commaParts]
  | cons c cs ih =>
    rw [List.forall_mem_cons] at h
    simp [commaParts, h.1, ih h.2]

/-- Parts without commas are found again between the commas. -/
theorem commaParts_intercalate {parts : List (List Char)} (hne : parts ≠ [])
    (h : ∀ cs ∈ parts, ∀ c ∈ cs, c ≠ ',') :
    commaParts (List.intercalate [','] parts) = parts := by
  induction parts with
  | nil => exact absurd rfl hne
  | cons cs parts ih =>
    rw [List.forall_mem_cons] at h
    -- A comma follows this part only if there is another one.
    cases parts with
    | nil => rw [List.intercalate_singleton, commaParts_of_ne_comma h.1]
    | cons cs' parts =>
      rw [List.intercalate_cons_cons, List.append_assoc, List.singleton_append,
        commaParts_append h.1, ih (List.cons_ne_nil cs' parts) h.2]

section
variable {α β : Type} {f : α → Option β} {as : List α} {bs : List β}

theorem filterMap_of_forall₂ (h : List.Forall₂ (fun a b => f a = some b) as bs) :
    as.filterMap f = bs := by
  induction h with
  | nil => rfl
  | cons hab _ ih => simp [hab, ih]

theorem mapM_of_forall₂ (h : List.Forall₂ (fun a b => f a = some b) as bs) :
    as.mapM f = some bs := by
  induction h with
  | nil => rfl
  | cons hab _ ih => simp [hab, ih]

theorem mapM_eq_none_of_mem (h : ∃ a ∈ as, f a = none) : as.mapM f = none := by
  induction as with
  | nil => simp at h
  | cons a as ih =>
    rw [List.mapM_cons]
    cases hfirst : f a with
    | none => rfl
    | some b =>
      have hrest : ∃ a ∈ as, f a = none := by simpa [hfirst] using h
      simp [ih hrest]

end

namespace Filter

/-- What the parts of a filter mean, in order; empty parts mean nothing. -/
inductive Meaning : List (List Char) → List Directive → Prop where
  | nil : Meaning [] []
  | empty {parts : List (List Char)} {ds : List Directive} :
      Meaning parts ds → Meaning ([] :: parts) ds
  | part {cs : List Char} {d : Directive} {parts : List (List Char)} {ds : List Directive} :
      Directive.Reading cs d → Meaning parts ds → Meaning (cs :: parts) (d :: ds)

/-- A text lists directives: it is their writings, with commas between them. -/
def Listing (text : String) (ds : List Directive) : Prop :=
  ∃ parts, text.toList = List.intercalate [','] parts ∧ Meaning parts ds

theorem Meaning.ne_comma {parts : List (List Char)} {ds : List Directive} (h : Meaning parts ds) :
    ∀ cs ∈ parts, ∀ c ∈ cs, c ≠ ',' := by
  induction h with
  | nil => simp
  | empty _ ih => simpa using ih
  | part hpart _ ih => exact List.forall_mem_cons.2 ⟨hpart.ne_comma, ih⟩

theorem Meaning.scope_eq {parts : List (List Char)} {ds : List Directive} (h : Meaning parts ds) :
    ∀ d ∈ ds, d.scope = .all := by
  induction h with
  | nil => simp
  | empty _ ih => exact ih
  | part hpart _ ih => exact List.forall_mem_cons.2 ⟨hpart.scope_eq, ih⟩

/-- The parts that are not empty are read one by one. -/
theorem Meaning.forall₂ {parts : List (List Char)} {ds : List Directive} (h : Meaning parts ds) :
    List.Forall₂ (fun cs d => Directive.ofText? cs = some d)
      (parts.filter fun part => !part.isEmpty) ds := by
  induction h with
  | nil => exact .nil
  | empty _ ih => simpa using ih
  | part hpart _ ih => simpa [hpart.ne_nil] using ⟨hpart.ofText?_eq, ih⟩

variable {text : String} {ds : List Directive}

theorem Listing.directiveTexts_forall₂ (h : Listing text ds) :
    List.Forall₂ (fun cs d => Directive.ofText? cs = some d) (directiveTexts text) ds := by
  obtain ⟨parts, htext, hmeaning⟩ := h
  rw [directiveTexts, htext]
  cases parts with
  | nil =>
    -- Between no commas there is one part, which is empty.
    cases hmeaning
    exact .nil
  | cons cs parts =>
    rw [commaParts_intercalate (List.cons_ne_nil cs parts) hmeaning.ne_comma]
    exact hmeaning.forall₂

theorem Listing.scope_eq (h : Listing text ds) : ∀ d ∈ ds, d.scope = .all := by
  obtain ⟨parts, -, hmeaning⟩ := h
  exact hmeaning.scope_eq

/-- A given filter is that of the directives that it lists. -/
theorem Listing.parse_eq (h : Listing text ds) : parse text = ofDirectives ds := by
  rw [parse, filterMap_of_forall₂ h.directiveTexts_forall₂]

/-- The filter of an environment that lists directives is read in the same way. -/
theorem Listing.parseStrict?_eq (h : Listing text ds) :
    parseStrict? text = some (ofDirectives ds) := by
  rw [parseStrict?, mapM_of_forall₂ h.directiveTexts_forall₂, Option.map_some]

/-- One part that is no directive makes the filter of an environment unreadable. -/
theorem parseStrict?_eq_none (h : ∃ part ∈ directiveTexts text, Directive.ofText? part = none) :
    parseStrict? text = none := by
  rw [parseStrict?, mapM_eq_none_of_mem h, Option.map_none]

end Filter

end PairingSig
