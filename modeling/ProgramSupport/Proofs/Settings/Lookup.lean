import ProgramSupport.Proofs.Text.WholeNumeral
import ProgramSupport.Settings

/-!
# Settings from variables

Three variables are read one after another, and the first fault is the result.  This file provides

* `Policy.Spells` and `Decimal.Spells` — a text between blanks is a name, or a numeral;
* `Policy.ofText_eq_ok_iff` and `seedOfText_eq_ok_iff`, with what is refused beside them — which
  texts give a policy or a seed;
* `Settings.ofLookup_eq` — the policy, the seed and the log filter that the variables give;
* `Settings.ReadFrom` — what the variables have to hold for settings to be read, and the settings;
* `Settings.ofLookup_decided` — which variables give settings, and which of them has the fault;
* `Settings.seed_refused` — the reason for which a text is no seed.

What the texts have to be is told by `Trimmed` and `Decimal.StandsFor`, not by the functions that
read them.
-/

namespace ProgramSupport

/-! ### Texts of policies -/

namespace Policy

/-- The names of the policies. -/
def names : List String := ["exit", "abort", "panic"]

/-- The text is the name, in letters of either case, with blanks around it. -/
def Spells (text name : String) : Prop :=
  ∃ letters, Trimmed text.toList letters ∧ letters.map Char.toLower = name.toList

theorem spells_iff {text name : String} :
    Spells text name ↔ (trimBlanks text.toList).map Char.toLower = name.toList :=
  exists_trimmed_iff

instance decidableSpells (text name : String) : Decidable (Spells text name) :=
  decidable_of_iff _ spells_iff.symm

/-- A text is no two names. -/
theorem Spells.name_eq {text name other : String} (h : Spells text name) (h' : Spells text other) :
    name = other :=
  String.toList_inj.1 ((spells_iff.1 h).symm.trans (spells_iff.1 h'))

theorem ofText?_eq (text : String) :
    ofText? text =
      if Spells text "exit" ∨ Spells text "abort" then some .exit
      else if Spells text "panic" then some .panic
      else none := by
  simp only [spells_iff]
  rfl

/-- A text that is a name gives the policy of the name. -/
theorem ofText_eq_ok_iff {text : String} {policy : Policy} :
    ofText text = .ok policy ↔
      (∃ name ∈ names, Spells text name) ∧ (policy = .panic ↔ Spells text "panic") := by
  rw [ofText, ofText?_eq]
  by_cases hexit : Spells text "exit" ∨ Spells text "abort"
  · have hpanic : ¬Spells text "panic" := by
      intro hpanic
      rcases hexit with h | h <;> exact absurd (h.name_eq hpanic) (by decide)
    have hname : ∃ name ∈ names, Spells text name := by
      rcases hexit with h | h
      · exact ⟨"exit", by decide, h⟩
      · exact ⟨"abort", by decide, h⟩
    cases policy <;> simp [hexit, hpanic, hname]
  · by_cases hpanic : Spells text "panic"
    · have hname : ∃ name ∈ names, Spells text name := ⟨"panic", by decide, hpanic⟩
      cases policy <;> simp [hexit, hpanic, hname]
    · have hnone : ¬∃ name ∈ names, Spells text name := by
        simpa [names, hpanic, not_or] using hexit
      simp [hexit, hpanic, hnone]

/-- A text that is no name is the fault. -/
theorem ofText_eq_error_iff {text : String} {fault : SettingsFault} :
    ofText text = .error fault ↔
      (∀ name ∈ names, ¬Spells text name) ∧ fault = .unknownPolicy text := by
  have hnames : (∀ name ∈ names, ¬Spells text name) ↔
      ¬(Spells text "exit" ∨ Spells text "abort") ∧ ¬Spells text "panic" := by
    simp [names, not_or, and_assoc]
  rw [ofText, ofText?_eq, hnames]
  by_cases hexit : Spells text "exit" ∨ Spells text "abort"
  · simp [hexit]
  · by_cases hpanic : Spells text "panic"
    · simp [hexit, hpanic]
    · simp [hexit, hpanic, eq_comm]

end Policy

/-! ### Texts of seeds -/

/-- The text is a numeral of the number, with blanks around it. -/
def Decimal.Spells (text : String) (n : Nat) : Prop :=
  ∃ numeral, Trimmed text.toList numeral ∧ StandsFor numeral n

theorem Decimal.spells_iff {text : String} {n : Nat} :
    Spells text n ↔ StandsFor (trimBlanks text.toList) n :=
  exists_trimmed_iff

/-- A numeral of a machine word gives the word. -/
theorem seedOfText_eq_ok_iff {text : String} {seed : UInt64} :
    seedOfText text = .ok seed ↔ Decimal.Spells text seed.toNat := by
  have hseed : seed.toNat ≤ UInt64.size - 1 := Nat.le_pred_of_lt seed.toNat_lt
  rw [Decimal.spells_iff, seedOfText]
  constructor
  · intro h
    cases hread : Decimal.read (UInt64.size - 1) (trimBlanks text.toList) with
    | error reason =>
      rw [hread] at h
      cases h
    | ok n =>
      obtain ⟨hnumeral, hbound⟩ := Decimal.read_eq_ok_iff.1 hread
      rw [hread] at h
      cases h
      rwa [UInt64.toNat_ofNat_of_lt' (Nat.lt_of_le_pred (by decide) hbound)]
  · intro h
    rw [Decimal.read_of_standsFor h hseed]
    exact congrArg Except.ok UInt64.ofNat_toNat

/-- Any other text is the fault, for the reason that applies to what stands between its blanks. -/
theorem seedOfText_eq_error_iff {text : String} {fault : SettingsFault} :
    seedOfText text = .error fault ↔
      ∃ reason : Decimal.ReadFault, reason.AppliesTo (UInt64.size - 1) (trimBlanks text.toList) ∧
        fault = .invalidSeed text reason := by
  rw [seedOfText]
  constructor
  · intro h
    cases hread : Decimal.read (UInt64.size - 1) (trimBlanks text.toList) with
    | error reason =>
      rw [hread] at h
      cases h
      exact ⟨reason, Decimal.read_eq_error_iff.1 hread, rfl⟩
    | ok n =>
      rw [hread] at h
      cases h
  · rintro ⟨reason, hreason, rfl⟩
    rw [Decimal.read_of_appliesTo hreason]

/-! ### One variable after another -/

/-- The policy that the variables name. -/
def Settings.policyOfLookup (lookup : String → Option String) : Except SettingsFault Policy :=
  match lookup policyVariable with
  | some text => Policy.ofText text
  | none => pure .exit

/-- The seed that the variables give. -/
def Settings.seedOfLookup (lookup : String → Option String) :
    Except SettingsFault (Option UInt64) :=
  match lookup seedVariable with
  | some text => some <$> seedOfText text
  | none => pure none

/-- Settings are read from one variable after another, and the log filter has no fault. -/
theorem Settings.ofLookup_eq (lookup : String → Option String) :
    ofLookup lookup = (policyOfLookup lookup).bind fun policy =>
      (seedOfLookup lookup).map fun seed =>
        { policy, seed, logFilter := (lookup logVariable).bind filterOfText? } := by
  unfold ofLookup policyOfLookup seedOfLookup
  cases lookup policyVariable with
  | none =>
    cases lookup seedVariable with
    | none => rfl
    | some value => cases seedOfText value <;> rfl
  | some text =>
    simp only
    cases Policy.ofText text with
    | error fault => rfl
    | ok policy =>
      cases lookup seedVariable with
      | none => rfl
      | some value => cases seedOfText value <;> rfl

namespace Settings

/-- The text of the policy, if there is one, is a name. -/
def PolicyNamed (lookup : String → Option String) : Prop :=
  ∀ text, lookup policyVariable = some text → ∃ name ∈ Policy.names, Policy.Spells text name

/-- The text of the seed, if there is one, is a numeral of a machine word. -/
def SeedGiven (lookup : String → Option String) : Prop :=
  ∀ text, lookup seedVariable = some text → ∃ n < UInt64.size, Decimal.Spells text n

/-- The variables can be read, and these are the settings that they hold. -/
structure ReadFrom (lookup : String → Option String) (settings : Settings) : Prop where
  policyNamed : PolicyNamed lookup
  seedGiven : SeedGiven lookup
  /-- Every other policy is the one that ends the process. -/
  policy_eq_panic_iff : settings.policy = .panic ↔
    ∃ text, lookup policyVariable = some text ∧ Policy.Spells text "panic"
  seed_eq_some_iff : ∀ seed, settings.seed = some seed ↔
    ∃ text, lookup seedVariable = some text ∧ Decimal.Spells text seed.toNat
  logFilter_eq_some_iff : ∀ text, settings.logFilter = some text ↔
    lookup logVariable = some text ∧ ∃ c ∈ text.toList, isBlank c = false

variable {lookup : String → Option String}

theorem policyOfLookup_eq_ok_iff {policy : Policy} :
    policyOfLookup lookup = .ok policy ↔ PolicyNamed lookup ∧ (policy = .panic ↔
      ∃ text, lookup policyVariable = some text ∧ Policy.Spells text "panic") := by
  unfold policyOfLookup PolicyNamed
  cases lookup policyVariable with
  | none => cases policy <;> simp [pure, Except.pure]
  | some text => simp [Policy.ofText_eq_ok_iff]

theorem policyOfLookup_eq_error_iff {fault : SettingsFault} :
    policyOfLookup lookup = .error fault ↔ ∃ text, lookup policyVariable = some text ∧
      (∀ name ∈ Policy.names, ¬Policy.Spells text name) ∧ fault = .unknownPolicy text := by
  unfold policyOfLookup
  cases lookup policyVariable with
  | none => simp [pure, Except.pure]
  | some text => simp [Policy.ofText_eq_error_iff]

theorem seedOfLookup_eq_ok_iff {seed? : Option UInt64} :
    seedOfLookup lookup = .ok seed? ↔ SeedGiven lookup ∧ ∀ seed, seed? = some seed ↔
      ∃ text, lookup seedVariable = some text ∧ Decimal.Spells text seed.toNat := by
  unfold seedOfLookup SeedGiven
  cases lookup seedVariable with
  | none => cases seed? <;> simp [pure, Except.pure]
  | some text =>
    simp only [Option.some.injEq, forall_eq', exists_eq_left', ← seedOfText_eq_ok_iff]
    constructor
    · intro h
      cases hread : seedOfText text with
      | error fault =>
        rw [hread] at h
        cases h
      | ok seed =>
        rw [hread] at h
        cases h
        refine ⟨⟨seed.toNat, seed.toNat_lt, seedOfText_eq_ok_iff.1 hread⟩, fun other => ?_⟩
        rw [Option.some.injEq, Except.ok.injEq]
    · rintro ⟨⟨n, hn, hnumber⟩, hseed⟩
      have hword : (UInt64.ofNat n).toNat = n := UInt64.toNat_ofNat_of_lt' hn
      rw [← hword, ← seedOfText_eq_ok_iff] at hnumber
      rw [(hseed _).2 hnumber, hnumber]
      rfl

theorem seedOfLookup_eq_error_iff {fault : SettingsFault} :
    seedOfLookup lookup = .error fault ↔ ∃ text, lookup seedVariable = some text ∧
      seedOfText text = .error fault := by
  unfold seedOfLookup
  cases lookup seedVariable with
  | none => simp [pure, Except.pure]
  | some text => cases hread : seedOfText text <;> simp [hread, Functor.map, Except.map]

theorem filterOfText?_eq_some_iff {given text : String} :
    filterOfText? given = some text ↔ given = text ∧ ∃ c ∈ text.toList, isBlank c = false := by
  unfold filterOfText?
  split
  · next hall =>
    simp only [List.all_eq_true] at hall
    constructor
    · intro h
      cases h
    · rintro ⟨rfl, c, hc, hblank⟩
      rw [hall c hc] at hblank
      cases hblank
  · next hall =>
    have hsome : ∃ c ∈ given.toList, isBlank c = false := by simpa using hall
    rw [Option.some.injEq]
    refine ⟨fun h => ⟨h, h ▸ hsome⟩, fun h => h.1⟩

/-- The settings come from all three variables, if none has a fault. -/
theorem ofLookup_eq_ok_iff {settings : Settings} :
    ofLookup lookup = .ok settings ↔ policyOfLookup lookup = .ok settings.policy ∧
      seedOfLookup lookup = .ok settings.seed ∧
      (lookup logVariable).bind filterOfText? = settings.logFilter := by
  rw [ofLookup_eq]
  cases policyOfLookup lookup with
  | error fault => simp [Except.bind]
  | ok policy =>
    cases seedOfLookup lookup with
    | error fault => simp [Except.bind, Except.map]
    | ok seed =>
      cases settings
      simp [Except.bind, Except.map]

/-- The fault is that of the policy, or that of the seed where a policy is given. -/
theorem ofLookup_eq_error_iff {fault : SettingsFault} :
    ofLookup lookup = .error fault ↔ policyOfLookup lookup = .error fault ∨
      (∃ policy, policyOfLookup lookup = .ok policy) ∧ seedOfLookup lookup = .error fault := by
  rw [ofLookup_eq]
  cases policyOfLookup lookup with
  | error other => simp [Except.bind]
  | ok policy => cases seedOfLookup lookup <;> simp [Except.bind, Except.map]

theorem policyNamed_iff : PolicyNamed lookup ↔ ∃ policy, policyOfLookup lookup = .ok policy := by
  constructor
  · intro hnamed
    cases hread : policyOfLookup lookup with
    | ok policy => exact ⟨policy, rfl⟩
    | error fault =>
      obtain ⟨text, htext, hnone, -⟩ := policyOfLookup_eq_error_iff.1 hread
      obtain ⟨name, hname, hspells⟩ := hnamed text htext
      exact absurd hspells (hnone name hname)
  · rintro ⟨policy, hread⟩
    exact (policyOfLookup_eq_ok_iff.1 hread).1

/-- A log filter is kept as it is, if it is more than blanks. -/
theorem filterOfLookup_eq_iff {filter? : Option String} :
    (lookup logVariable).bind filterOfText? = filter? ↔ ∀ text, filter? = some text ↔
      lookup logVariable = some text ∧ ∃ c ∈ text.toList, isBlank c = false := by
  have hfilter (text : String) : (lookup logVariable).bind filterOfText? = some text ↔
      lookup logVariable = some text ∧ ∃ c ∈ text.toList, isBlank c = false := by
    simp only [Option.bind_eq_some_iff, filterOfText?_eq_some_iff]
    constructor
    · rintro ⟨given, hgiven, rfl, hsome⟩
      exact ⟨hgiven, hsome⟩
    · rintro ⟨hgiven, hsome⟩
      exact ⟨text, hgiven, rfl, hsome⟩
  constructor
  · rintro rfl
    exact hfilter
  · intro h
    exact Option.ext fun text => (hfilter text).trans (h text).symm

/-- Settings are read just from variables that hold them. -/
theorem readFrom_iff {settings : Settings} :
    settings.ReadFrom lookup ↔ ofLookup lookup = .ok settings := by
  rw [ofLookup_eq_ok_iff, policyOfLookup_eq_ok_iff, seedOfLookup_eq_ok_iff, filterOfLookup_eq_iff]
  constructor
  · rintro ⟨hnamed, hgiven, hpolicy, hseed, hfilter⟩
    exact ⟨⟨hnamed, hpolicy⟩, ⟨hgiven, hseed⟩, hfilter⟩
  · rintro ⟨⟨hnamed, hpolicy⟩, ⟨hgiven, hseed⟩, hfilter⟩
    exact ⟨hnamed, hgiven, hpolicy, hseed, hfilter⟩

/-- The variables that settings are read from. -/
def readVariables : List String := [policyVariable, seedVariable, logVariable]

/-- No other variable matters. -/
theorem ofLookup_congr {lookup' : String → Option String}
    (h : ∀ name ∈ readVariables, lookup' name = lookup name) :
    ofLookup lookup' = ofLookup lookup := by
  have hpolicy : policyOfLookup lookup' = policyOfLookup lookup := by
    rw [policyOfLookup, policyOfLookup, h policyVariable (by decide)]
  have hseed : seedOfLookup lookup' = seedOfLookup lookup := by
    rw [seedOfLookup, seedOfLookup, h seedVariable (by decide)]
  rw [ofLookup_eq, ofLookup_eq, hpolicy, hseed, h logVariable (by decide)]

/-- Only a text of the policy that is no name is a fault of the policy, whatever else the variables
hold. -/
theorem unknownPolicy_iff {text : String} :
    ofLookup lookup = .error (.unknownPolicy text) ↔
      lookup policyVariable = some text ∧ ∀ name ∈ Policy.names, ¬Policy.Spells text name := by
  rw [ofLookup_eq_error_iff, policyOfLookup_eq_error_iff, seedOfLookup_eq_error_iff]
  constructor
  · rintro (⟨given, hgiven, hnone, heq⟩ | ⟨-, given, -, hseed⟩)
    · cases heq
      exact ⟨hgiven, hnone⟩
    · obtain ⟨reason, -, heq⟩ := seedOfText_eq_error_iff.1 hseed
      cases heq
  · rintro ⟨hgiven, hnone⟩
    exact .inl ⟨text, hgiven, hnone, rfl⟩

/-- A text of the seed is refused for the reason that applies to it, where the policy is read. -/
theorem invalidSeed_iff {text : String} {reason : Decimal.ReadFault} :
    ofLookup lookup = .error (.invalidSeed text reason) ↔
      PolicyNamed lookup ∧ lookup seedVariable = some text ∧
        reason.AppliesTo (UInt64.size - 1) (trimBlanks text.toList) := by
  rw [ofLookup_eq_error_iff, policyOfLookup_eq_error_iff, seedOfLookup_eq_error_iff,
    ← policyNamed_iff]
  constructor
  · rintro (⟨given, -, -, heq⟩ | ⟨hnamed, given, hgiven, hseed⟩)
    · cases heq
    · obtain ⟨applied, happlies, heq⟩ := seedOfText_eq_error_iff.1 hseed
      cases heq
      exact ⟨hnamed, hgiven, happlies⟩
  · rintro ⟨hnamed, hgiven, happlies⟩
    exact .inr ⟨hnamed, text, hgiven, seedOfText_eq_error_iff.2 ⟨reason, happlies, rfl⟩⟩

/-- A reason applies to the texts that are no numerals of a machine word. -/
theorem exists_appliesTo_iff {text : String} :
    (∃ reason : Decimal.ReadFault, reason.AppliesTo (UInt64.size - 1) (trimBlanks text.toList)) ↔
      ∀ n < UInt64.size, ¬Decimal.Spells text n := by
  constructor
  · rintro ⟨reason, happlies⟩ n hn hspells
    have hread := Decimal.read_of_standsFor (Decimal.spells_iff.1 hspells) (Nat.le_pred_of_lt hn)
    have hrefused := Decimal.read_of_appliesTo happlies
    exact absurd (hread.symm.trans hrefused) (by simp)
  · intro hnone
    rcases Decimal.standsFor_or_appliesTo (UInt64.size - 1) (trimBlanks text.toList) with
      ⟨n, hnumeral, hbound⟩ | hfault
    · exact absurd (Decimal.spells_iff.2 hnumeral) (hnone n (Nat.lt_of_le_pred (by decide) hbound))
    · exact hfault

/-- Settings are read where the policy and the seed are. -/
theorem exists_ofLookup_eq_ok_iff :
    (∃ settings, ofLookup lookup = .ok settings) ↔ PolicyNamed lookup ∧ SeedGiven lookup := by
  constructor
  · rintro ⟨settings, hread⟩
    have hfrom := readFrom_iff.2 hread
    exact ⟨hfrom.policyNamed, hfrom.seedGiven⟩
  · rintro ⟨hnamed, hgiven⟩
    cases hread : ofLookup lookup with
    | ok settings => exact ⟨settings, rfl⟩
    | error fault =>
      cases fault with
      | unknownPolicy text =>
        obtain ⟨htext, hnone⟩ := unknownPolicy_iff.1 hread
        obtain ⟨name, hname, hspells⟩ := hnamed text htext
        exact absurd hspells (hnone name hname)
      | invalidSeed text reason =>
        obtain ⟨-, htext, happlies⟩ := invalidSeed_iff.1 hread
        obtain ⟨n, hn, hspells⟩ := hgiven text htext
        exact absurd hspells (exists_appliesTo_iff.1 ⟨reason, happlies⟩ n hn)

/-! ### Which variables give settings -/

/-- Settings are read from three variables.  A text of the policy that is no name is the fault,
whatever the others hold; where the policy is read, a text of the seed that is no numeral of a
machine word is the fault; both faults carry the text with its blanks.  In all other cases the
variables give the settings that they hold. -/
theorem ofLookup_decided (lookup : String → Option String) :
    (∀ lookup', (∀ name ∈ readVariables, lookup' name = lookup name) →
        ofLookup lookup' = ofLookup lookup) ∧
      (∀ text, ofLookup lookup = .error (.unknownPolicy text) ↔
        lookup policyVariable = some text ∧ ∀ name ∈ Policy.names, ¬Policy.Spells text name) ∧
      (∀ text, (∃ reason, ofLookup lookup = .error (.invalidSeed text reason)) ↔
        PolicyNamed lookup ∧ lookup seedVariable = some text ∧
          ∀ n < UInt64.size, ¬Decimal.Spells text n) ∧
      ((∃ settings, ofLookup lookup = .ok settings) ↔ PolicyNamed lookup ∧ SeedGiven lookup) ∧
      ∀ settings, ofLookup lookup = .ok settings ↔ settings.ReadFrom lookup := by
  refine ⟨fun lookup' => ofLookup_congr, fun text => unknownPolicy_iff, fun text => ?_,
    exists_ofLookup_eq_ok_iff, fun settings => readFrom_iff.symm⟩
  simp only [invalidSeed_iff, exists_and_left, exists_appliesTo_iff]

/-! ### Why a text is no seed -/

/-- The reason for which a seed is refused follows from what stands between its blanks: nothing at
all, or leading digits that pass the greatest machine word, whatever follows them.  In all other
cases a character that is no digit stands where a digit has to, or none stands behind the sign. -/
theorem seed_refused {text : String} {fault : SettingsFault} (hnamed : PolicyNamed lookup)
    (hgiven : lookup seedVariable = some text) (hrefused : ofLookup lookup = .error fault) :
    ∃ numeral reason, Trimmed text.toList numeral ∧ fault = .invalidSeed text reason ∧
      fault.message = "TERN_SEED: invalid seed `" ++ text ++ "`: " ++ reason.message ∧
      (reason.message = "cannot parse integer from empty string" ↔ numeral = []) ∧
      (reason.message = "number too large to fit in target type" ↔
        UInt64.size ≤ Decimal.ofChars (Decimal.leadingDigits numeral)) ∧
      (reason.message = "invalid digit found in string" ↔
        numeral ≠ [] ∧ Decimal.ofChars (Decimal.leadingDigits numeral) < UInt64.size) ∧
      (reason.message = "invalid digit found in string" → Decimal.unsigned numeral = [] ∨
        ∃ c rest, Decimal.unsigned numeral = Decimal.leadingDigits numeral ++ c :: rest ∧
          c.isDigit = false) := by
  cases fault with
  | unknownPolicy other =>
    obtain ⟨hother, hnone⟩ := unknownPolicy_iff.1 hrefused
    obtain ⟨name, hname, hspells⟩ := hnamed other hother
    exact absurd hspells (hnone name hname)
  | invalidSeed other reason =>
    obtain ⟨-, hother, happlies⟩ := invalidSeed_iff.1 hrefused
    obtain rfl : text = other := Option.some.inj (hgiven.symm.trans hother)
    have hmessage (fault : Decimal.ReadFault) : reason.message = fault.message ↔ reason = fault :=
      ⟨Decimal.ReadFault.message_inj, congrArg _⟩
    refine ⟨trimBlanks text.toList, reason, trimmed_trimBlanks _, rfl, rfl, ?_, ?_, ?_, ?_⟩
    · exact (hmessage .empty).trans happlies.eq_empty_iff
    · exact (hmessage .tooLarge).trans happlies.eq_tooLarge_iff
    · rw [Nat.lt_iff_le_pred (by decide)]
      exact (hmessage .invalidDigit).trans happlies.eq_invalidDigit_iff
    · intro hinvalid
      obtain rfl := (hmessage .invalidDigit).1 hinvalid
      exact happlies.2.2

/-- A number one above the greatest word is too large, although zeros precede and a letter follows
it. -/
theorem seed_refused_overlong :
    ofLookup (List.lookup · [(policyVariable, " Abort"),
        (seedVariable, "\u2003+0018446744073709551616x ")]) =
        .error (.invalidSeed "\u2003+0018446744073709551616x " .tooLarge) ∧
      ∃ numeral, Trimmed "\u2003+0018446744073709551616x ".toList numeral ∧
        UInt64.size ≤ Decimal.ofChars (Decimal.leadingDigits numeral) := by
  have hnamed : PolicyNamed (List.lookup · [(policyVariable, " Abort"),
      (seedVariable, "\u2003+0018446744073709551616x ")]) := by
    intro text htext
    obtain rfl : " Abort" = text := Option.some.inj htext
    exact ⟨"abort", by decide, by decide +kernel⟩
  have hlarge : Decimal.ReadFault.AppliesTo (UInt64.size - 1)
      (trimBlanks "\u2003+0018446744073709551616x ".toList) .tooLarge := by
    show UInt64.size - 1 < _
    decide +kernel
  have hrefused := invalidSeed_iff.2 ⟨hnamed, rfl, hlarge⟩
  obtain ⟨numeral, reason, htrimmed, hfault, -, -, hbound, -⟩ := seed_refused hnamed rfl hrefused
  cases hfault
  exact ⟨hrefused, numeral, htrimmed, hbound.1 rfl⟩

end Settings

end ProgramSupport
