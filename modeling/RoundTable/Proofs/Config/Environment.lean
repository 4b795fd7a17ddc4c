import RoundTable.Config
import Mathlib.Data.List.Forall2
import Mathlib.Data.List.Induction
import Mathlib.Data.List.TakeWhile

/-!
# The grammar of the environment

Which texts a variable of the environment may hold, said by a grammar of its own: white space, then
a plus sign or none, then at least one decimal digit, then white space. A variable gives the number
that its text spells if that is below the bound of the setting, and a configuration is loaded if all
the variables give numbers and the first does not give 0. Otherwise the error names the first
variable that gives none.

## Main definitions

* `Text.Decimal`, `Text.Numeral`, `Text.Spells`: digits, with a sign, and between white space
* `TableConfig.Variable`: the settings that the environment may hold
* `TableConfig.Variable.Gives`: the number that a variable gives

## Main results

* `Text.plusBelow?_trim_eq_some_iff`: the texts that are read
* `TableConfig.ofEnvironment_eq_iff`: which environments are loaded, and what is wrong with others
-/

namespace RoundTable

namespace Text

variable {text before core after : List Char} {n limit : Nat}

/-! ### White space -/

/-- Trimming takes blanks away from the ends, and nothing else. -/
theorem exists_eq_append_trim (text : List Char) :
    ∃ before after, (∀ c ∈ before, isBlank c = true) ∧ (∀ c ∈ after, isBlank c = true) ∧
      text = before ++ trim text ++ after := by
  have hfront := List.takeWhile_append_dropWhile (p := isBlank) (l := text)
  have hback :=
    List.takeWhile_append_dropWhile (p := isBlank) (l := (text.dropWhile isBlank).reverse)
  refine ⟨text.takeWhile isBlank, ((text.dropWhile isBlank).reverse.takeWhile isBlank).reverse,
    fun c hc => List.mem_takeWhile_imp hc,
    fun c hc => List.mem_takeWhile_imp (List.mem_reverse.mp hc), ?_⟩
  rw [trim, List.append_assoc, ← List.reverse_append, hback, List.reverse_reverse, hfront]

/-- A text that has no blank itself is what trimming leaves of it with blanks around it. -/
theorem trim_append (hbefore : ∀ c ∈ before, isBlank c = true)
    (hafter : ∀ c ∈ after, isBlank c = true) (hcore : ∀ c ∈ core, isBlank c = false)
    (hne : core ≠ []) : trim (before ++ core ++ after) = core := by
  have keeps {t rest : List Char} (ht : ∀ c ∈ t, isBlank c = false) (htne : t ≠ []) :
      (t ++ rest).dropWhile isBlank = t ++ rest := by
    obtain ⟨c, t, rfl⟩ := List.exists_cons_of_ne_nil htne
    rw [List.cons_append, List.dropWhile_cons_of_neg]
    rw [ht c List.mem_cons_self]
    exact Bool.false_ne_true
  have hback : (core ++ after).reverse.dropWhile isBlank = core.reverse := by
    rw [List.reverse_append,
      List.dropWhile_append_of_pos fun c hc => hafter c (List.mem_reverse.mp hc),
      ← List.append_nil core.reverse,
      keeps (fun c hc => hcore c (List.mem_reverse.mp hc)) (List.reverse_ne_nil_iff.mpr hne)]
  rw [trim, List.append_assoc, List.dropWhile_append_of_pos hbefore, keeps hcore hne, hback,
    List.reverse_reverse]

/-! ### Numerals -/

/-- Decimal digits spell a number, the last one the units. -/
inductive Decimal : List Char → Nat → Prop
  /-- One digit. -/
  | digit {c : Char} (hc : c.isDigit = true) : Decimal [c] (c.toNat - '0'.toNat)
  /-- One digit more. -/
  | more {text : List Char} {n : Nat} {c : Char} (htext : Decimal text n) (hc : c.isDigit = true) :
    Decimal (text ++ [c]) (10 * n + (c.toNat - '0'.toNat))

/-- Decimal digits, with or without one plus sign in front. -/
inductive Numeral : List Char → Nat → Prop
  /-- Without a sign. -/
  | bare {text : List Char} {n : Nat} (htext : Decimal text n) : Numeral text n
  /-- With a plus sign. -/
  | plus {text : List Char} {n : Nat} (htext : Decimal text n) : Numeral ('+' :: text) n

/-- A numeral between white space. -/
inductive Spells : List Char → Nat → Prop
  /-- White space, a numeral, white space; either may be empty. -/
  | padded {before core after : List Char} {n : Nat} (hbefore : ∀ c ∈ before, isBlank c = true)
    (hcore : Numeral core n) (hafter : ∀ c ∈ after, isBlank c = true) :
    Spells (before ++ core ++ after) n

theorem Decimal.ne_nil (h : Decimal text n) : text ≠ [] := by
  cases h with
  | digit hc => exact List.cons_ne_nil _ _
  | more htext hc => exact List.append_ne_nil_of_right_ne_nil _ (List.cons_ne_nil _ _)

theorem Decimal.isDigit (h : Decimal text n) : ∀ c ∈ text, c.isDigit = true := by
  induction h with
  | digit hc => simpa using hc
  | more htext hc ih =>
    intro c hmem
    obtain hmem | hmem := List.mem_append.mp hmem
    · exact ih c hmem
    · rw [List.mem_singleton.mp hmem, hc]

theorem Decimal.value (h : Decimal text n) : Nat.ofDigitChars 10 text 0 = n := by
  induction h with
  | digit hc => simp [Nat.ofDigitChars_cons]
  | more htext hc ih => rw [Nat.ofDigitChars_append, ih, Nat.ofDigitChars_cons,
      Nat.ofDigitChars_nil]

/-- Any digits spell the number that they are read as. -/
theorem decimal_ofDigitChars (hne : text ≠ []) (hdigits : ∀ c ∈ text, c.isDigit = true) :
    Decimal text (Nat.ofDigitChars 10 text 0) := by
  induction text using List.reverseRecOn with
  | nil => exact absurd rfl hne
  | append_singleton text c ih =>
    have hc : c.isDigit = true := hdigits c (List.mem_append_right _ (List.mem_singleton_self c))
    rw [Nat.ofDigitChars_append, Nat.ofDigitChars_cons, Nat.ofDigitChars_nil]
    by_cases htext : text = []
    · subst htext
      simpa [Nat.ofDigitChars_nil] using Decimal.digit hc
    · exact (ih htext fun d hd => hdigits d (List.mem_append_left _ hd)).more hc

/-- Digits are read as the number that they spell. -/
theorem ofDigits?_eq_some_iff : ofDigits? text = some n ↔ Decimal text n := by
  rw [ofDigits?]
  constructor
  · intro h
    obtain ⟨⟨hne, hdigits⟩, hvalue⟩ := Option.ite_none_right_eq_some.mp h
    obtain rfl := Option.some.inj hvalue
    exact decimal_ofDigitChars hne (List.all_eq_true.mp hdigits)
  · intro h
    rw [if_pos ⟨h.ne_nil, List.all_eq_true.mpr h.isDigit⟩, h.value]

theorem below?_eq_some_iff : below? limit text = some n ↔ Decimal text n ∧ n < limit := by
  rw [below?, Option.filter_eq_some_iff, ofDigits?_eq_some_iff, decide_eq_true_iff]

/-- A sign is no digit, so it is read in one way. -/
theorem plusBelow?_eq_some_iff : plusBelow? limit text = some n ↔ Numeral text n ∧ n < limit := by
  have hplus : '+'.isDigit = false := rfl
  constructor
  · intro h
    unfold plusBelow? at h
    split at h <;> obtain ⟨hdecimal, hlimit⟩ := below?_eq_some_iff.mp h
    · exact ⟨.plus hdecimal, hlimit⟩
    · exact ⟨.bare hdecimal, hlimit⟩
  · rintro ⟨hnumeral, hlimit⟩
    cases hnumeral with
    | plus htext => exact below?_eq_some_iff.mpr ⟨htext, hlimit⟩
    | bare htext =>
      have hread := below?_eq_some_iff.mpr ⟨htext, hlimit⟩
      unfold plusBelow?
      split
      · cases hplus.symm.trans (htext.isDigit '+' List.mem_cons_self)
      · exact hread

theorem Numeral.ne_nil (h : Numeral text n) : text ≠ [] := by
  cases h with
  | bare htext => exact htext.ne_nil
  | plus htext => exact List.cons_ne_nil _ _

/-- Digits are no blanks. -/
theorem isBlank_of_isDigit {c : Char} (hc : c.isDigit = true) : isBlank c = false := by
  have hrange : 48 ≤ c.toNat ∧ c.toNat ≤ 57 := Char.isDigit_iff_toNat.mp hc
  simp only [isBlank, blankRanges, List.any_cons, List.any_nil, Bool.or_false, Bool.or_eq_false_iff,
    Bool.and_eq_false_iff, decide_eq_false_iff_not]
  omega

theorem Numeral.isBlank (h : Numeral text n) : ∀ c ∈ text, isBlank c = false := by
  cases h with
  | bare htext => exact fun c hc => isBlank_of_isDigit (htext.isDigit c hc)
  | plus htext =>
    intro c hc
    obtain rfl | hc := List.mem_cons.mp hc
    · rfl
    · exact isBlank_of_isDigit (htext.isDigit c hc)

/-- **The texts that are read** are the numerals of numbers below the bound between white space. -/
theorem plusBelow?_trim_eq_some_iff :
    plusBelow? limit (trim text) = some n ↔ Spells text n ∧ n < limit := by
  rw [plusBelow?_eq_some_iff]
  constructor
  · rintro ⟨hnumeral, hlimit⟩
    obtain ⟨before, after, hbefore, hafter, htext⟩ := exists_eq_append_trim text
    rw [htext]
    exact ⟨.padded hbefore hnumeral hafter, hlimit⟩
  · rintro ⟨⟨hbefore, hcore, hafter⟩, hlimit⟩
    rw [trim_append hbefore hafter hcore.isBlank hcore.ne_nil]
    exact ⟨hcore, hlimit⟩

end Text

namespace TableConfig

/-! ### Variables -/

/-- A setting that the environment may hold. -/
structure Variable where
  /-- The name of the variable. -/
  name : String
  /-- Numbers at or above this one are refused. -/
  limit : Nat
  /-- The number where the variable is not set. -/
  default : Nat

namespace Variable

/-- How many cards a draw takes, 64 bits wide. -/
def drawCount : Variable := ⟨drawCountName, UInt64.size, 2⟩

/-- How many cards are dealt at first, 64 bits wide. -/
def handSize : Variable := ⟨handSizeName, UInt64.size, 0⟩

/-- The prestige that players start with, 32 bits wide. -/
def prestige : Variable := ⟨startingPrestigeName, UInt32.size, 3⟩

/-- The variables, in the order in which they are read. -/
def all : List Variable := [drawCount, handSize, prestige]

variable {lookup : String → Option String} {listed : List Variable} {v : Variable}
  {error : ConfigError} {n m : Nat}

/-- The number that a variable gives: the default where it is not set, else what its text spells,
if that is below the bound. -/
inductive Gives (lookup : String → Option String) (v : Variable) : Nat → Prop
  /-- The variable is not set. -/
  | unset (hlookup : lookup v.name = none) : Gives lookup v v.default
  /-- The text of the variable spells a number. -/
  | set {raw : String} {n : Nat} (hlookup : lookup v.name = some raw)
    (hspells : Text.Spells raw.toList n) (hlimit : n < v.limit) : Gives lookup v n

/-- What is wrong with a variable that is set to a text that gives no number. -/
def Refuses (lookup : String → Option String) (v : Variable) (error : ConfigError) : Prop :=
  ∃ raw, lookup v.name = some raw ∧ (∀ n, ¬ v.Gives lookup n) ∧
    error = .invalid v.name ("Cannot parse " ++ Text.quote raw)

/-- The reading of a variable. -/
def read (lookup : String → Option String) (v : Variable) : Except ConfigError Nat :=
  setting lookup v.name v.limit v.default

/-- A variable that is set gives what is read from its text. -/
theorem gives_iff_of_set {raw : String} (hlookup : lookup v.name = some raw) :
    v.Gives lookup n ↔ Text.plusBelow? v.limit (Text.trim raw.toList) = some n := by
  rw [Text.plusBelow?_trim_eq_some_iff]
  constructor
  · intro h
    cases h with
    | unset hunset => cases hlookup.symm.trans hunset
    | set hset hspells hlimit =>
      obtain rfl := Option.some.inj (hlookup.symm.trans hset)
      exact ⟨hspells, hlimit⟩
  · exact fun h => .set hlookup h.1 h.2

theorem gives_iff_of_unset (hlookup : lookup v.name = none) :
    v.Gives lookup n ↔ v.default = n := by
  constructor
  · intro h
    cases h with
    | unset hunset => rfl
    | set hset hspells hlimit => cases hlookup.symm.trans hset
  · rintro rfl
    exact .unset hlookup

theorem read_of_unset (hlookup : lookup v.name = none) : v.read lookup = .ok v.default := by
  rw [read, setting, hlookup]

theorem read_of_set {raw : String} (hlookup : lookup v.name = some raw) :
    v.read lookup =
      ((Text.plusBelow? v.limit (Text.trim raw.toList)).elim
        (.error (.invalid v.name ("Cannot parse " ++ Text.quote raw))) .ok) := by
  rw [read, setting, hlookup]
  cases hread : Text.plusBelow? v.limit (Text.trim raw.toList) <;> simp only [hread, Option.elim]

theorem read_eq_ok_iff : v.read lookup = .ok n ↔ v.Gives lookup n := by
  cases hlookup : lookup v.name with
  | none => rw [read_of_unset hlookup, gives_iff_of_unset hlookup, Except.ok.injEq]
  | some raw =>
    rw [read_of_set hlookup, gives_iff_of_set hlookup]
    cases Text.plusBelow? v.limit (Text.trim raw.toList) <;> simp

theorem read_eq_error_iff : v.read lookup = .error error ↔ v.Refuses lookup error := by
  unfold Refuses
  cases hlookup : lookup v.name with
  | none => simp [read_of_unset hlookup]
  | some raw =>
    simp only [read_of_set hlookup, gives_iff_of_set hlookup, Option.some.injEq, exists_eq_left']
    cases Text.plusBelow? v.limit (Text.trim raw.toList) <;> simp [eq_comm]

/-- A variable gives at most one number. -/
theorem Gives.unique (h : v.Gives lookup n) (h' : v.Gives lookup m) : n = m := by
  have hread := (read_eq_ok_iff.mpr h).symm.trans (read_eq_ok_iff.mpr h')
  exact Except.ok.inj hread

/-- A variable that gives a number is not refused. -/
theorem Gives.not_refuses (h : v.Gives lookup n) : ¬ v.Refuses lookup error :=
  fun ⟨_, _, hnone, _⟩ => hnone n h

/-! ### Reading one after another -/

theorem mapM_read_eq_ok_iff {numbers : List Nat} :
    listed.mapM (read lookup) = .ok numbers ↔
      List.Forall₂ (fun v n => v.Gives lookup n) listed numbers := by
  induction listed generalizing numbers with
  | nil => cases numbers <;> simp [pure, Except.pure]
  | cons v listed ih =>
    rw [List.mapM_cons]
    cases numbers with
    | nil =>
      refine iff_of_false (fun h => ?_) nofun
      cases hread : v.read lookup <;> cases hrest : listed.mapM (read lookup) <;>
        simp [hread, hrest, bind, Except.bind, pure, Except.pure] at h
    | cons n numbers =>
      rw [List.forall₂_cons, ← ih, ← read_eq_ok_iff]
      cases v.read lookup <;> cases listed.mapM (read lookup) <;>
        simp [bind, Except.bind, pure, Except.pure]

/-- The error is that of the first variable that gives no number. -/
theorem mapM_read_eq_error_iff :
    listed.mapM (read lookup) = .error error ↔
      ∃ earlier v later, listed = earlier ++ v :: later ∧
        (∀ w ∈ earlier, ∃ n, w.Gives lookup n) ∧ v.Refuses lookup error := by
  induction listed with
  | nil => simp [pure, Except.pure]
  | cons v listed ih =>
    have hcases : (v :: listed).mapM (read lookup) = .error error ↔
        v.Refuses lookup error ∨
          (∃ n, v.Gives lookup n) ∧ listed.mapM (read lookup) = .error error := by
      rw [List.mapM_cons, ← read_eq_error_iff]
      simp only [← read_eq_ok_iff]
      cases v.read lookup <;> cases listed.mapM (read lookup) <;>
        simp [bind, Except.bind, pure, Except.pure]
    rw [hcases, ih]
    constructor
    · rintro (hrefuses | ⟨hgives, earlier, w, later, rfl, hearlier, hrefuses⟩)
      · exact ⟨[], v, listed, rfl, nofun, hrefuses⟩
      · exact ⟨v :: earlier, w, later, rfl, List.forall_mem_cons.mpr ⟨hgives, hearlier⟩, hrefuses⟩
    · rintro ⟨earlier, w, later, hlisted, hearlier, hrefuses⟩
      cases earlier with
      | nil =>
        obtain ⟨rfl, rfl⟩ := List.cons.inj hlisted
        exact .inl hrefuses
      | cons u earlier =>
        obtain ⟨rfl, rfl⟩ := List.cons.inj hlisted
        obtain ⟨hgives, hearlier⟩ := List.forall_mem_cons.mp hearlier
        exact .inr ⟨hgives, earlier, w, later, rfl, hearlier, hrefuses⟩

end Variable

/-! ### Configurations -/

variable {lookup : String → Option String} {config : TableConfig} {error : ConfigError}

/-- The variables are read in their order, and the configuration is validated last. -/
theorem ofEnvironment_eq (lookup : String → Option String) :
    ofEnvironment lookup = (do
      let drawn ← Variable.drawCount.read lookup
      let dealt ← Variable.handSize.read lookup
      let prestige ← Variable.prestige.read lookup
      validate ⟨drawn, dealt, .ofNat prestige⟩) := rfl

theorem validate_eq_ok_iff {read : TableConfig} :
    read.validate = .ok config ↔ read = config ∧ config.drawCount ≠ 0 := by
  unfold validate
  constructor
  · intro h
    split at h
    · cases h
    · cases h
      exact ⟨rfl, ‹_›⟩
  · rintro ⟨rfl, hdrawn⟩
    rw [if_neg hdrawn]

theorem validate_eq_error_iff :
    config.validate = .error error ↔
      config.drawCount = 0 ∧ error = .invalid drawCountName "Must be greater than 0" := by
  unfold validate
  split <;> simp [*, eq_comm]

/-- What is loaded is made of the numbers read. -/
theorem ofEnvironment_of_mapM_ok {numbers : List Nat}
    (h : Variable.all.mapM (Variable.read lookup) = .ok numbers) :
    ∃ drawn dealt prestige, numbers = [drawn, dealt, prestige] ∧
      Variable.drawCount.Gives lookup drawn ∧ Variable.handSize.Gives lookup dealt ∧
      Variable.prestige.Gives lookup prestige ∧
      ofEnvironment lookup = validate ⟨drawn, dealt, .ofNat prestige⟩ := by
  obtain ⟨drawn, _, hdrawn, hrest, rfl⟩ :=
    List.forall₂_cons_left_iff.mp (Variable.mapM_read_eq_ok_iff.mp h)
  obtain ⟨dealt, _, hdealt, hlast, rfl⟩ := List.forall₂_cons_left_iff.mp hrest
  obtain ⟨prestige, _, hprestige, hnone, rfl⟩ := List.forall₂_cons_left_iff.mp hlast
  obtain rfl := List.forall₂_nil_left_iff.mp hnone
  refine ⟨drawn, dealt, prestige, rfl, hdrawn, hdealt, hprestige, ?_⟩
  rw [ofEnvironment_eq, Variable.read_eq_ok_iff.mpr hdrawn, Variable.read_eq_ok_iff.mpr hdealt,
    Variable.read_eq_ok_iff.mpr hprestige]
  rfl

/-- An error in reading is not made good. -/
theorem ofEnvironment_of_mapM_error (h : Variable.all.mapM (Variable.read lookup) = .error error) :
    ofEnvironment lookup = .error error := by
  -- there are three numbers whenever there are any, so no default is taken
  have hbind : ofEnvironment lookup = Variable.all.mapM (Variable.read lookup) >>= fun numbers =>
      validate ⟨numbers.getD 0 0, numbers.getD 1 0, .ofNat (numbers.getD 2 0)⟩ := by
    rw [ofEnvironment_eq]
    simp [Variable.all]
  rw [hbind, h]
  rfl

/-- A number of the prestige fits into 32 bits. -/
theorem Variable.Gives.toNat_prestige {n : Nat} (h : Variable.prestige.Gives lookup n) :
    (UInt32.ofNat n).toNat = n := by
  have hlimit : n < UInt32.size := by
    cases h with
    | unset hlookup => decide
    | set hlookup hspells hlimit => exact hlimit
  exact UInt32.toNat_ofNat_of_lt hlimit

/-- **The environment is loaded exactly by its grammar.** A configuration is loaded if all three
variables give numbers, and the first does not give 0; these numbers are its fields. Otherwise the
error is about the first variable whose text gives no number or, if all give numbers, about the
number of cards drawn, which is 0. -/
theorem ofEnvironment_eq_iff (lookup : String → Option String) :
    (∀ config, ofEnvironment lookup = .ok config ↔
      Variable.drawCount.Gives lookup config.drawCount ∧
      Variable.handSize.Gives lookup config.handSize ∧
      Variable.prestige.Gives lookup config.startingPrestige.toNat ∧ config.drawCount ≠ 0) ∧
    (∀ error, ofEnvironment lookup = .error error ↔
      (∃ earlier v later, Variable.all = earlier ++ v :: later ∧
        (∀ w ∈ earlier, ∃ n, w.Gives lookup n) ∧ v.Refuses lookup error) ∨
      ((∀ v ∈ Variable.all, ∃ n, v.Gives lookup n) ∧ Variable.drawCount.Gives lookup 0 ∧
        error = .invalid drawCountName "Must be greater than 0")) := by
  simp only [← Variable.mapM_read_eq_error_iff]
  cases hread : Variable.all.mapM (Variable.read lookup) with
  | error first =>
    rw [ofEnvironment_of_mapM_error hread]
    obtain ⟨earlier, v, later, hall, -, hrefuses⟩ := Variable.mapM_read_eq_error_iff.mp hread
    have hv : v ∈ Variable.all := hall ▸ List.mem_append_right _ List.mem_cons_self
    refine ⟨fun config => iff_of_false nofun ?_, fun error => ?_⟩
    · rintro ⟨hdrawn, hdealt, hprestige, -⟩
      simp only [Variable.all, List.mem_cons, List.not_mem_nil, or_false] at hv
      obtain rfl | rfl | rfl := hv
      · exact hdrawn.not_refuses hrefuses
      · exact hdealt.not_refuses hrefuses
      · exact hprestige.not_refuses hrefuses
    · rw [Except.error.injEq, Except.error.injEq]
      refine ⟨.inl, ?_⟩
      rintro (h | ⟨hgives, -⟩)
      · exact h
      · obtain ⟨n, hgives⟩ := hgives v hv
        cases hgives.not_refuses hrefuses
  | ok numbers =>
    obtain ⟨drawn, dealt, prestige, rfl, hdrawn, hdealt, hprestige, hload⟩ :=
      ofEnvironment_of_mapM_ok hread
    rw [hload]
    refine ⟨fun config => ?_, fun error => ?_⟩
    · rw [validate_eq_ok_iff]
      constructor
      · rintro ⟨rfl, hne⟩
        exact ⟨hdrawn, hdealt, hprestige.toNat_prestige.symm ▸ hprestige, hne⟩
      · rintro ⟨hdrawn', hdealt', hprestige', hne⟩
        refine ⟨?_, hne⟩
        obtain rfl := hdrawn.unique hdrawn'
        obtain rfl := hdealt.unique hdealt'
        obtain rfl := hprestige.unique hprestige'
        rw [UInt32.ofNat_toNat]
    · rw [validate_eq_error_iff]
      constructor
      · rintro ⟨rfl, herror⟩
        refine .inr ⟨?_, hdrawn, herror⟩
        simpa [Variable.all] using ⟨⟨_, hdrawn⟩, ⟨_, hdealt⟩, ⟨_, hprestige⟩⟩
      · rintro (h | ⟨-, hzero, herror⟩)
        · cases h
        · exact ⟨hdrawn.unique hzero, herror⟩

/-- Leading zeros, a plus sign and a no-break space do not matter. -/
example : ofEnvironment (fun name => if name = drawCountName then some " +003\u00A0" else none) =
    .ok ⟨3, 0, 3⟩ := by
  decide +kernel

end TableConfig

end RoundTable
