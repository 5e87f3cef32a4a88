import PairingSig.Bls12381
import PairingSig.Journal
import PairingSig.Proofs.Filter.Reading
import PairingSig.Proofs.Filter.Showing

/-!
# Logged lines

The first wish of a process fixes its filter. What is logged then are the lines of those events that
pass the directives of this filter, in the order in which they are reported.

- **Installation**: `inForce?_cons`, a filter in force stays through a run of further wishes;
- **Choice**: `Asks` says which directives a wish stands for, and `Asks.chosen_eq` that it chooses
  their filter;
- **Lines**: `lines_cons`, `lines_append`, and `lines_of_first_wish`.
-/

namespace PairingSig.Journal

variable {setting : Option String} {wish : Option String} {ds ds' : List Directive}

/-! ## Installation -/

/-- A filter in force stays in force, whatever is wished for later. -/
theorem foldl_install_some (setting : Option String) (filter : Filter)
    (wishes : List (Option String)) :
    wishes.foldl (install setting) (some filter) = some filter := by
  induction wishes with
  | nil => rfl
  | cons wish later ih => exact ih

theorem inForce?_cons (setting : Option String) (wish : Option String)
    (later : List (Option String)) :
    inForce? setting (wish :: later) = some (chosen setting wish) :=
  foldl_install_some setting (chosen setting wish) later

/-! ## Choice -/

/-- The directives that a wish stands for in a process with an environment. -/
inductive Asks (setting : Option String) : Option String → List Directive → Prop where
  /-- A text that is given counts, whatever the environment says. -/
  | given {text : String} {ds : List Directive} :
      Filter.Listing text ds → Asks setting (some text) ds
  /-- Else the text of the environment counts. -/
  | environment {text : String} {ds : List Directive} :
      setting = some text → Filter.Listing text ds → Asks setting none ds
  /-- Without one, informative events are asked for. -/
  | unset : setting = none → Asks setting none [⟨[], .all, .info⟩]
  /-- A part that is no directive makes the whole text of the environment count for nothing. -/
  | unreadable {text : String} :
      setting = some text → (∃ part ∈ directiveTexts text, Directive.ofText? part = none) →
      Asks setting none [⟨[], .all, .info⟩]

theorem Asks.scope_eq (h : Asks setting wish ds) : ∀ d ∈ ds, d.scope = .all := by
  cases h with
  | given hlisting => exact hlisting.scope_eq
  | environment _ hlisting => exact hlisting.scope_eq
  | unset | unreadable => simp

theorem Asks.chosen_eq (h : Asks setting wish ds) : chosen setting wish = .ofDirectives ds := by
  cases h with
  | given hlisting => exact hlisting.parse_eq
  | environment hsetting hlisting =>
    simp [chosen, Filter.ofEnvironment, hsetting, hlisting.parseStrict?_eq]
  | unset hsetting =>
    simp [chosen, Filter.ofEnvironment, hsetting, Filter.upTo_eq_ofDirectives]
  | unreadable hsetting hpart =>
    simp [chosen, Filter.ofEnvironment, hsetting, Filter.parseStrict?_eq_none hpart,
      Filter.upTo_eq_ofDirectives]

/-! ## Lines -/

variable {G : PairingGroups}

theorem lines_nil (setting : Option String) (requests : List Request) :
    lines G setting [] requests = [] := rfl

theorem lines_cons (setting : Option String) (wish : Option String) (later : List (Option String))
    (requests : List Request) :
    lines G setting (wish :: later) requests =
      ((Request.events G requests).filter (chosen setting wish).shows).map Event.line := by
  rw [lines, inForce?_cons]

/-- The lines of one run of requests follow those of another. -/
theorem lines_append (setting : Option String) (wishes : List (Option String))
    (requests more : List Request) :
    lines G setting wishes (requests ++ more) =
      lines G setting wishes requests ++ lines G setting wishes more := by
  unfold lines
  cases inForce? setting wishes with
  | none => rfl
  | some filter => simp [Request.events]

theorem Asks.shows_iff (h : Asks setting wish ds) (e : Event) :
    (chosen setting wish).shows e = true ↔ Filter.Passes ds e := by
  rw [h.chosen_eq, Filter.shows_iff_passes h.scope_eq]

/-- **The first wish decides what is logged.** Without a wish nothing is. The first wish fixes which
events are shown: those that pass the directives that it stands for. The lines are those of the
reported events that are shown, in their order, whatever is wished for later, and the lines for two
runs of requests follow each other. Directives with pairwise distinct targets may be given in any
order. -/
theorem lines_of_first_wish (G : PairingGroups) (setting : Option String) :
    (∀ requests, lines G setting [] requests = []) ∧
    (∀ wish, ∃ shown : Event → Bool,
      (∀ later requests, lines G setting (wish :: later) requests =
        ((Request.events G requests).filter shown).map Event.line) ∧
      ∀ ds, Asks setting wish ds → ∀ e, shown e = true ↔ Filter.Passes ds e) ∧
    (∀ wish later more requests,
      lines G setting (wish :: later ++ more) requests =
        lines G setting (wish :: later) requests) ∧
    (∀ wishes requests more, lines G setting wishes (requests ++ more) =
      lines G setting wishes requests ++ lines G setting wishes more) ∧
    ∀ wish wish' ds ds', Asks setting wish ds → Asks setting wish' ds' → ds.Perm ds' →
      (ds.map Directive.target).Nodup → ∀ later requests,
        lines G setting (wish' :: later) requests = lines G setting (wish :: later) requests := by
  refine ⟨lines_nil setting, ?_, ?_, lines_append setting, ?_⟩
  · -- The first wish alone gives the filter.
    intro wish
    exact ⟨(chosen setting wish).shows, lines_cons setting wish, fun ds h => h.shows_iff⟩
  · intro wish later more requests
    rw [List.cons_append, lines_cons, lines_cons]
  · -- Filters of reordered directives show the same events, if no target is given twice.
    intro wish wish' ds ds' h h' hperm hnodup later requests
    have hshows : (chosen setting wish').shows = (chosen setting wish).shows := by
      funext e
      rw [Bool.eq_iff_iff, h.shows_iff, h'.shows_iff, Filter.passes_perm hperm hnodup]
    rw [lines_cons, lines_cons, hshows]

/-- The verifier is silenced, by a text and by another writing of it the other way round. -/
theorem lines_of_first_wish_silencedVerifier :
    let wish := some "trace,basic_blssig::verifier=off"
    let wish' := some "basic_blssig::verifier=OFF,,5"
    let ds : List Directive := [⟨[], .all, .trace⟩, ⟨"basic_blssig::verifier".toList, .all, .off⟩]
    let requests := [.generateKey [1], .useVerifier 1 [.verify [] [] []]]
    Asks (some "warn") wish ds ∧ Asks (some "warn") wish' ds.reverse ∧
    (∃ shown : Event → Bool,
      (∀ later requests, lines standardGroups (some "warn") (wish :: later) requests =
        ((Request.events standardGroups requests).filter shown).map Event.line) ∧
      ∀ e, shown e = true ↔ Filter.Passes ds e) ∧
    lines standardGroups (some "warn") [wish, some "off"] requests =
      ["DEBUG key generation rejected err=invalid seed: expected at least 32 bytes, got 1"] ∧
    lines standardGroups (some "warn") [wish', some "off"] requests =
      lines standardGroups (some "warn") [wish, some "off"] requests := by
  intro wish wish' ds requests
  -- The target begins with a letter and has none of the signs that end one.
  have htarget : Directive.IsTarget "basic_blssig::verifier".toList := by
    refine ⟨⟨'b', _, rfl, .inl (by decide +kernel)⟩, fun c hc => ?_⟩
    have hall : "basic_blssig::verifier".toList.all
        (fun c => c ≠ ',' ∧ c ≠ '=' ∧ c ≠ '[') = true := by decide
    simpa using List.all_eq_true.1 hall c hc
  -- One part is a level by its name, the other one limits it for the target.
  have hasks : Asks (some "warn") wish ds := by
    refine .given ⟨["trace".toList, "basic_blssig::verifier=off".toList], by decide, ?_⟩
    have hoff : Level.off.Spelling "off".toList := by
      apply Level.Spelling.name
      unfold Text.AnyCase
      decide +kernel
    refine .part (.level (.name ?_)) (.part (.limited htarget hoff) .nil)
    unfold Text.AnyCase
    decide +kernel
  -- The same in capitals and by rank, the other way round, with an empty part in between.
  have hasks' : Asks (some "warn") wish' ds.reverse := by
    refine .given ⟨["basic_blssig::verifier=OFF".toList, [], ['5']], by decide, ?_⟩
    have hoff : Level.off.Spelling "OFF".toList := by
      apply Level.Spelling.name
      unfold Text.AnyCase
      decide +kernel
    exact .part (.limited htarget hoff) (.empty (.part (.level (.rank 0)) .nil))
  obtain ⟨-, hfirst, -, -, hperm⟩ := lines_of_first_wish standardGroups (some "warn")
  obtain ⟨shown, hlines, hshown⟩ := hfirst wish
  refine ⟨hasks, hasks', ⟨shown, hlines, hshown ds hasks⟩, by decide +kernel, ?_⟩
  exact hperm wish wish' ds ds.reverse hasks hasks' ds.reverse_perm.symm (by decide) _ requests

end PairingSig.Journal
