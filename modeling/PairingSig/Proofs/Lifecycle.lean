import PairingSig.Lifecycle
import PairingSig.Proofs.Hex
import PairingSig.Proofs.Key.Generation
import PairingSig.Proofs.Scheme.Verification

/-!
# What the command line program does

The program reads its arguments, generates a key, and then derives, signs and verifies. Only the
first two can fail, so how a run ends is told from the arguments: `Verdict` does so, in the order in
which they are checked, and it says what is printed. The setting of the environment adds log lines
to the output, which are told apart by their beginnings.

- **Log lines**: `isLogLine`, `Report.withoutLog`;
- **Verdicts**: `Verdict.run_eq`, the program ends by its verdict, and `exists_verdict`, there
  always is one;
- **Usable arguments**: `UsableSeed`, those with which it succeeds;
- **Runs**: `run_verdict`.
-/

namespace PairingSig

/-- A key that was generated signs, and what it signs is verified under its public key. -/
theorem Scheme.exists_verified {G : PairingGroups} {A₁ A₂ T : Type} [AddCommGroup A₁]
    [AddCommGroup A₂] [AddCommGroup T] (I : G.Interpretation A₁ A₂ T) {seed key : Bytes}
    (hkey : (generateKey seed).result = .ok key) (message : Bytes) :
    ∃ publicKey signature, (derivePublicKey G key).result = .ok publicKey ∧
      (sign G key message).result = .ok signature ∧
      (verify G publicKey message signature).result = .ok () := by
  rw [result_generateKey] at hkey
  cases hx : KeyGeneration.generate seed with
  | error f =>
    rw [hx] at hkey
    cases hkey
  | ok x =>
    rw [hx] at hkey
    cases hkey
    -- The operations read the key that generation wrote.
    have hread := KeyGeneration.decode_generate hx
    exact ⟨_, _, derivePublicKey_of_decode hread, sign_of_decode hread message,
      verify_signed I hread message⟩

namespace Lifecycle

/-! ## Log lines -/

/-- Whether a line begins with a level and a blank, as the line of an event does. -/
def isLogLine (line : String) : Bool :=
  [Level.error, .warn, .info, .debug, .trace].any fun level =>
    (level.name ++ " ").toList.isPrefixOf line.toList

/-- What is left of a report without its log lines. -/
def Report.withoutLog (r : Report) : Report :=
  { r with output := r.output.filter fun line => !isLogLine line }

theorem isLogLine_line (e : Event) : isLogLine e.line = true := by
  have hlevel : e.level ∈ [Level.error, .warn, .info, .debug, .trace] := by
    cases e <;> simp [Event.level]
  refine List.any_eq_true.2 ⟨e.level, hlevel, ?_⟩
  rw [List.isPrefixOf_iff_prefix, Event.line, String.toList_append (s := e.level.name ++ " ")]
  exact List.prefix_append _ _

/-- A line that begins with a small letter, as those with the results do, is no log line. -/
theorem isLogLine_of_isLower {line : String} {c : Char} {rest : List Char}
    (h : line.toList = c :: rest) (hc : c.isLower = true) : isLogLine line = false := by
  -- The names of the levels begin with these capital letters.
  have hlevels : ∀ d ∈ ['E', 'W', 'I', 'D', 'T'], d ≠ c := by
    rintro d hd rfl
    simp only [List.mem_cons, List.not_mem_nil, or_false] at hd
    rcases hd with rfl | rfl | rfl | rfl | rfl <;> cases hc
  simp [isLogLine, Level.name, h, List.isPrefixOf, hlevels]

theorem filter_shownLines (filter : Filter) (events : List Event) :
    (shownLines filter events).filter (fun line => !isLogLine line) = [] := by
  apply List.filter_eq_nil_iff.2
  intro line hline
  obtain ⟨e, -, rfl⟩ := List.mem_map.1 hline
  simp [isLogLine_line]

/-! ## Verdicts -/

section Verdicts

variable (G : PairingGroups)

/-- The text of an argument that is read as a seed. -/
def seedText (argument : String) : List Char :=
  Text.trim argument.toList

/-- What the program does with its arguments, log lines aside. -/
inductive Verdict : List String → Report → Prop where
  /-- There is no message, or no seed either. -/
  | usage {args : List String} : args.length < 2 → Verdict args (.failure [] usage)
  /-- The seed is no hexadecimal text; the complaint names the defect. -/
  | unreadable {argument message : String} {rest : List String} {d : Hex.Defect} :
      Hex.Verdict (seedText argument) (.error d) →
      Verdict (argument :: message :: rest) (.failure [] (seedComplaint d))
  /-- The seed is read, and is too short. -/
  | shortSeed {argument message : String} {rest : List String} {seed : Bytes} :
      Hex.Spells (seedText argument) seed → seed.length < 32 →
      Verdict (argument :: message :: rest) (.failure [] (complaint (.shortSeed seed.length)))
  /-- The seed gives a key, and what the key signs is verified. -/
  | verified {argument message : String} {rest : List String}
      {seed key publicKey signature : Bytes} :
      Hex.Spells (seedText argument) seed → 32 ≤ seed.length →
      (Scheme.generateKey seed).result = .ok key →
      (Scheme.derivePublicKey G key).result = .ok publicKey →
      (Scheme.sign G key (Bytes.ofText message)).result = .ok signature →
      (Scheme.verify G publicKey (Bytes.ofText message) signature).result = .ok () →
      Verdict (argument :: message :: rest) (.success
        ["public key: " ++ Hex.encode publicKey, "signature:  " ++ Hex.encode signature,
          "signature verified for message " ++ Text.quote message])

end Verdicts

variable {G : PairingGroups} {args : List String}

theorem readSeed_iff {argument : String} {r : Except Hex.Defect Bytes} :
    readSeed argument = r ↔ Hex.Verdict (seedText argument) r :=
  Hex.decode_iff

theorem readSeed_of_spells {argument : String} {seed : Bytes}
    (h : Hex.Spells (seedText argument) seed) : readSeed argument = .ok seed :=
  readSeed_iff.2 (.read h)

theorem run_of_readSeed {argument : String} {seed : Bytes} (h : readSeed argument = .ok seed)
    (setting : Option String) (message : String) (rest : List String) :
    run G setting (argument :: message :: rest) =
      fromSeed G (.ofEnvironment setting) seed message := by
  rw [run, h]

theorem fromSeed_of_generate_error {seed : Bytes} {f : Fault}
    (h : (Scheme.generateKey seed).result = .error f) (filter : Filter) (message : String) :
    (fromSeed G filter seed message).withoutLog = .failure [] (complaint f) := by
  simp only [fromSeed, h, Report.failure, Report.withoutLog, filter_shownLines]

/-- The three lines with the results are what a run prints besides its log. -/
theorem fromSeed_of_verified {seed key publicKey signature : Bytes} {message : String}
    (hkey : (Scheme.generateKey seed).result = .ok key)
    (hpublic : (Scheme.derivePublicKey G key).result = .ok publicKey)
    (hsign : (Scheme.sign G key (Bytes.ofText message)).result = .ok signature)
    (hverify : (Scheme.verify G publicKey (Bytes.ofText message) signature).result = .ok ())
    (filter : Filter) :
    (fromSeed G filter seed message).withoutLog =
      .success ["public key: " ++ Hex.encode publicKey, "signature:  " ++ Hex.encode signature,
        "signature verified for message " ++ Text.quote message] := by
  -- None of the three lines is dropped with the log.
  have hfirst : isLogLine ("public key: " ++ Hex.encode publicKey) = false :=
    isLogLine_of_isLower String.toList_append rfl
  have hsecond : isLogLine ("signature:  " ++ Hex.encode signature) = false :=
    isLogLine_of_isLower String.toList_append rfl
  have hthird : isLogLine ("signature verified for message " ++ Text.quote message) = false :=
    isLogLine_of_isLower String.toList_append rfl
  simp [fromSeed, hkey, hpublic, hsign, hverify, Report.success, Report.withoutLog,
    filter_shownLines, hfirst, hsecond, hthird]

/-- The program ends by its verdict, whatever the setting. -/
theorem Verdict.run_eq {r : Report} (h : Verdict G args r) (setting : Option String) :
    (run G setting args).withoutLog = r := by
  cases h with
  -- The arguments are refused before anything is logged.
  | usage hargs =>
    match args, hargs with
    | [], _ | [_], _ => rfl
  | unreadable hd =>
    rw [run, readSeed_iff.2 hd]
    rfl
  -- From a seed on, the log stands between the other lines.
  | shortSeed hspells hshort =>
    rw [run_of_readSeed (readSeed_of_spells hspells)]
    apply fromSeed_of_generate_error
    rw [Scheme.result_generateKey, KeyGeneration.generate_short hshort]
    rfl
  | verified hspells _ hkey hpublic hsign hverify =>
    rw [run_of_readSeed (readSeed_of_spells hspells)]
    exact fromSeed_of_verified hkey hpublic hsign hverify _

/-! ## Usable arguments -/

/-- An argument that gives a seed of sufficient length: blanks aside, it has an even number of
digits, and at least 64 of them. -/
structure UsableSeed (argument : String) : Prop where
  even : (seedText argument).length % 2 = 0
  long : 64 ≤ (seedText argument).length
  digits : ∀ c ∈ seedText argument, c ∈ Hex.digits

theorem usableSeed_iff {argument : String} :
    UsableSeed argument ↔ ∃ seed, Hex.Spells (seedText argument) seed ∧ 32 ≤ seed.length := by
  constructor
  -- The digits are taken in pairs, one pair for each byte.
  · rintro ⟨heven, hlong, hdigits⟩
    have hhalf : (seedText argument).length = 2 * ((seedText argument).length / 2) := by omega
    obtain ⟨seed, hspells, hlength⟩ := Hex.exists_spells_iff.2 ⟨hhalf, hdigits⟩
    exact ⟨seed, hspells, by omega⟩
  · rintro ⟨seed, hspells, hlength⟩
    obtain ⟨htext, hdigits⟩ := Hex.exists_spells_iff.1 ⟨seed, hspells, rfl⟩
    exact ⟨by omega, by omega, hdigits⟩

/-- A usable argument is read, and what is read is no short seed. -/
theorem UsableSeed.exists_readSeed {argument : String} (h : UsableSeed argument) :
    ∃ seed, readSeed argument = .ok seed ∧ 32 ≤ seed.length := by
  obtain ⟨seed, hspells, hlong⟩ := usableSeed_iff.1 h
  exact ⟨seed, readSeed_of_spells hspells, hlong⟩

theorem not_usableSeed_of_error {argument : String} {d : Hex.Defect}
    (h : readSeed argument = .error d) : ¬ UsableSeed argument := by
  intro husable
  obtain ⟨seed, hseed, -⟩ := husable.exists_readSeed
  cases h.symm.trans hseed

theorem not_usableSeed_of_short {argument : String} {seed : Bytes}
    (h : readSeed argument = .ok seed) (hshort : seed.length < 32) : ¬ UsableSeed argument := by
  intro husable
  obtain ⟨seed', hseed', hlong⟩ := husable.exists_readSeed
  cases h.symm.trans hseed'
  exact absurd hshort (Nat.not_lt.2 hlong)

/-- A text spells one seed only, and then it is not refused. -/
theorem Verdict.exitCode_eq_zero_iff {r : Report} (h : Verdict G args r) :
    r.exitCode = 0 ↔
      ∃ argument message rest, args = argument :: message :: rest ∧ UsableSeed argument := by
  cases h with
  -- The three failures: no seed, no seed that can be read, a seed that is too short.
  | usage hargs =>
    refine iff_of_false Nat.one_ne_zero ?_
    rintro ⟨argument, message, rest, rfl, -⟩
    exact absurd hargs (by simp)
  | unreadable hd =>
    refine iff_of_false Nat.one_ne_zero ?_
    rintro ⟨argument, message, rest, hargs, husable⟩
    cases hargs
    exact not_usableSeed_of_error (readSeed_iff.2 hd) husable
  | shortSeed hspells hshort =>
    refine iff_of_false Nat.one_ne_zero ?_
    rintro ⟨argument, message, rest, hargs, husable⟩
    cases hargs
    exact not_usableSeed_of_short (readSeed_of_spells hspells) hshort husable
  -- The one success.
  | verified hspells hlong =>
    exact iff_of_true rfl ⟨_, _, _, rfl, usableSeed_iff.2 ⟨_, hspells, hlong⟩⟩

/-! ## Runs -/

/-- The seed among the arguments, if it is long enough, gives a key at the first attempt. -/
def FirstAttempt (args : List String) : Prop :=
  ∀ argument message rest seed, args = argument :: message :: rest →
    Hex.Spells (seedText argument) seed → 32 ≤ seed.length →
      (KeyGeneration.candidate KeyGeneration.firstSalt seed).isZero = false

section Runs

variable {A₁ A₂ T : Type} [AddCommGroup A₁] [AddCommGroup A₂] [AddCommGroup T]

/-- A seed is too short, or it gives a key, and a key is used without a fault. -/
theorem exists_verdict_of_spells (I : G.Interpretation A₁ A₂ T) {argument message : String}
    {rest : List String} (hfirst : FirstAttempt (argument :: message :: rest)) {seed : Bytes}
    (hspells : Hex.Spells (seedText argument) seed) :
    ∃ r, Verdict G (argument :: message :: rest) r := by
  obtain hshort | hlong := Nat.lt_or_ge seed.length 32
  · exact ⟨_, .shortSeed hspells hshort⟩
  · have hzero := hfirst _ _ _ _ rfl hspells hlong
    have hkey := Scheme.result_generateKey seed
    rw [KeyGeneration.generate_of_candidate hlong hzero] at hkey
    obtain ⟨publicKey, signature, hpublic, hsign, hverify⟩ :=
      Scheme.exists_verified I hkey (Bytes.ofText message)
    exact ⟨_, .verified hspells hlong hkey hpublic hsign hverify⟩

/-- There is no other way to end. -/
theorem exists_verdict (I : G.Interpretation A₁ A₂ T) (hfirst : FirstAttempt args) :
    ∃ r, Verdict G args r := by
  rcases args with _ | ⟨argument, _ | ⟨message, rest⟩⟩
  -- No argument, or the seed alone.
  · exact ⟨_, .usage (by simp)⟩
  · exact ⟨_, .usage (by simp)⟩
  -- A seed and a message: the seed is read or it is not.
  · obtain ⟨d | seed, hd⟩ := Hex.exists_verdict (seedText argument)
    · exact ⟨_, .unreadable hd⟩
    · cases hd with
      | read hspells => exact exists_verdict_of_spells I hfirst hspells

/-- **What the program does**, for any setting of the log. Log lines aside, it ends by its verdict,
which the setting does not change. It succeeds exactly with a usable seed and a message, nothing
depends on how the seed is spelled, and once there is a key nothing fails. -/
theorem run_verdict (I : G.Interpretation A₁ A₂ T) (hfirst : FirstAttempt args)
    (setting : Option String) :
    (∀ r, (run G setting args).withoutLog = r ↔ Verdict G args r) ∧
    ((run G setting args).exitCode = 0 ↔
      ∃ argument message rest, args = argument :: message :: rest ∧ UsableSeed argument) ∧
    (∀ setting', (run G setting' args).withoutLog = (run G setting args).withoutLog) ∧
    (∀ argument argument' message rest rest' seed, args = argument :: message :: rest →
      Hex.Spells (seedText argument) seed → Hex.Spells (seedText argument') seed →
        run G setting (argument' :: message :: rest') = run G setting args) ∧
    ∀ seed key message, (Scheme.generateKey seed).result = .ok key →
      ∃ publicKey signature, (Scheme.derivePublicKey G key).result = .ok publicKey ∧
        (Scheme.sign G key message).result = .ok signature ∧
        (Scheme.verify G publicKey message signature).result = .ok () := by
  obtain ⟨r, hr⟩ := exists_verdict I hfirst
  have hrun := hr.run_eq setting
  refine ⟨fun r' => ⟨?_, fun hr' => hr'.run_eq setting⟩, ?_, fun setting' => ?_, ?_, ?_⟩
  -- The verdict, and no other report than it.
  · rintro rfl
    rwa [hrun]
  -- The exit code is no matter of the log.
  · rw [← hr.exitCode_eq_zero_iff, ← hrun]
    rfl
  -- One verdict for both settings.
  · rw [hrun, hr.run_eq setting']
  -- Both spellings are read as one seed.
  · rintro argument argument' message rest rest' seed rfl hspells hspells'
    rw [run_of_readSeed (readSeed_of_spells hspells), run_of_readSeed (readSeed_of_spells hspells')]
  -- Whatever key is generated can be used.
  · exact fun seed key message hkey => Scheme.exists_verified I hkey message

/-- A seed of 32 equal bytes, after a blank and with digits in both cases, and a message. -/
def sampleArguments : List String :=
  [String.ofList (' ' :: (List.replicate 16 ['0', 'A', '0', 'a']).flatten), "unlock"]

theorem spells_sample {argument message : String} {rest : List String}
    (h : sampleArguments = argument :: message :: rest) :
    Hex.Spells (seedText argument) (List.replicate 32 10) := by
  cases h
  rw [Hex.Spells, seedText, String.toList_ofList, Hex.toList_encode]
  decide +kernel

/-- The key of the sample, the one whose public key and signature `sampleGroups` lists. -/
def sampleKey : PrivateKey :=
  .ofScalar (.ofNat sampleExponent)

theorem candidate_sample :
    KeyGeneration.candidate KeyGeneration.firstSalt (List.replicate 32 10) =
      .ofNat sampleExponent := by
  decide +kernel

theorem generate_sample : KeyGeneration.generate (List.replicate 32 10) = .ok sampleKey := by
  have hzero : (KeyGeneration.candidate KeyGeneration.firstSalt (List.replicate 32 10)).isZero =
      false := by
    rw [candidate_sample]
    decide +kernel
  rw [KeyGeneration.generate_of_candidate (by decide) hzero, candidate_sample, sampleKey]

theorem val_sampleKey : sampleKey.scalar.val = sampleExponent := by
  rw [sampleKey, PrivateKey.scalar_ofScalar]
  decide +kernel

theorem encode_publicKey_sample :
    (sampleKey.publicKey sampleGroups).encode = samplePublicKey := by
  rw [sampleGroups, encode_publicKey_exponent, val_sampleKey]
  exact sampleKeys.write_natCast (by decide +kernel)

theorem encode_sign_sample :
    (sampleKey.sign sampleGroups (Bytes.ofText "unlock")).encode = sampleSignature := by
  rw [sampleGroups, encode_sign_exponent, val_sampleKey, ← Nat.cast_succ, ← Nat.cast_mul]
  exact sampleSignatures.write_natCast (by decide +kernel)

theorem verdict_sample :
    Verdict sampleGroups sampleArguments (.success
      ["public key: " ++ Hex.encode samplePublicKey, "signature:  " ++ Hex.encode sampleSignature,
        "signature verified for message " ++ Text.quote "unlock"]) := by
  have hread := KeyGeneration.decode_generate generate_sample
  have hkey : (Scheme.generateKey (List.replicate 32 10)).result = .ok sampleKey.encode := by
    rw [Scheme.result_generateKey, generate_sample]
    rfl
  have hpublic : (Scheme.derivePublicKey sampleGroups sampleKey.encode).result =
      .ok samplePublicKey := by
    rw [Scheme.derivePublicKey_of_decode hread, encode_publicKey_sample]
  have hsign : (Scheme.sign sampleGroups sampleKey.encode (Bytes.ofText "unlock")).result =
      .ok sampleSignature := by
    rw [Scheme.sign_of_decode hread, encode_sign_sample]
  have hverify := Scheme.verify_signed sampleInterpretation hread (Bytes.ofText "unlock")
  rw [encode_publicKey_sample, encode_sign_sample] at hverify
  exact .verified (spells_sample rfl) (by decide) hkey hpublic hsign hverify

/-- The seed of the sample gives its key at the first attempt. The run over `sampleGroups` succeeds,
and prints the public key and the signature that the key has over `standardGroups`. -/
theorem run_verdict_sample :
    FirstAttempt sampleArguments ∧ (run sampleGroups none sampleArguments).exitCode = 0 ∧
    (run sampleGroups none sampleArguments).withoutLog = .success
      ["public key: " ++ Hex.encode samplePublicKey, "signature:  " ++ Hex.encode sampleSignature,
        "signature verified for message " ++ Text.quote "unlock"] := by
  have hfirst : FirstAttempt sampleArguments := by
    intro argument message rest seed hargs hspells _
    cases (readSeed_of_spells (spells_sample hargs)).symm.trans (readSeed_of_spells hspells)
    decide +kernel
  have husable : UsableSeed _ := usableSeed_iff.2 ⟨_, spells_sample rfl, by decide⟩
  obtain ⟨hreport, hexit, -⟩ := run_verdict sampleInterpretation hfirst none
  exact ⟨hfirst, hexit.2 ⟨_, _, _, rfl, husable⟩, (hreport _).2 verdict_sample⟩

end Runs

end Lifecycle
end PairingSig
