import Mathlib.Data.List.Forall2
import Spelling.Proofs.WordList.Grammar
import Spelling.Settings.Directive

/-!
# What directives mean

A directive says one change of the settings, or it is faulty, and not both:

    CACHECAPACITY n      the capacity is n        0 < n < 2^64
    READERS n            n queries at once        0 < n < 2^64
    THRESHOLD x          the threshold is x       x is finite and not negative
    CONTACTS             contacts count
    NOCONTACTS           contacts do not count
    PERMITTIMEOUT n      waits last up to n       n < 2^64
    NOPERMITTIMEOUT      waits have no limit
    any other name       unknown

A directive of the first three rows or of the sixth is invalid with any other value, or with none.
The rest do not look at their value.  Applied one after another, directives leave each setting at
the value of the last that changes it (`foldl_apply`).
-/

namespace Spelling.Settings

open WordList (Decimal nat?_eq_some_iff)

/-! ## Changes -/

/-- A change of one setting. -/
inductive Change where
  | cacheCapacity (n : Count)
  | maxReaders (n : Count)
  | threshold (x : Float32)
  | useContacts (use : Bool)
  | permitTimeout (limit? : Option Nat)

namespace Change

/-- The settings after a change. -/
def apply (s : Settings) : Change → Settings
  | cacheCapacity n => { s with cacheCapacity := n }
  | maxReaders n => { s with maxReaders := n }
  | threshold x => { s with threshold := x }
  | useContacts use => { s with useContacts := use }
  | permitTimeout limit? => { s with permitTimeout? := limit? }

/-- The cache capacity that a change is to. -/
def cacheCapacity? : Change → Option Count
  | cacheCapacity n => some n
  | _ => none

/-- The number of readers that a change is to. -/
def maxReaders? : Change → Option Count
  | maxReaders n => some n
  | _ => none

/-- The threshold that a change is to. -/
def threshold? : Change → Option Float32
  | threshold x => some x
  | _ => none

/-- The use of contacts that a change is to. -/
def useContacts? : Change → Option Bool
  | useContacts use => some use
  | _ => none

/-- The limit of waits that a change is to, which may be none. -/
def permitTimeout? : Change → Option (Option Nat)
  | permitTimeout limit? => some limit?
  | _ => none

/-- The last value that some changes give, or the given one. -/
def last {α : Type} (value? : Change → Option α) (changes : List Change) (given : α) : α :=
  (changes.filterMap value?).getLast?.getD given

/-- Settings in which every value is the last that some changes give it, and else is kept. -/
def settled (s : Settings) (changes : List Change) : Settings where
  cacheCapacity := last cacheCapacity? changes s.cacheCapacity
  maxReaders := last maxReaders? changes s.maxReaders
  threshold := last threshold? changes s.threshold
  useContacts := last useContacts? changes s.useContacts
  permitTimeout? := last permitTimeout? changes s.permitTimeout?

theorem last_cons {α : Type} (value? : Change → Option α) (c : Change) (changes : List Change)
    (given : α) :
    last value? (c :: changes) given = last value? changes ((value? c).getD given) := by
  cases h : value? c with
  | none => rw [last, List.filterMap_cons_none h, Option.getD_none, last]
  | some a => rw [last, List.filterMap_cons_some h, List.getLast?_cons, Option.getD_some,
      Option.getD_some, last]

/-- **Changes made in order leave every value at the last that it is given.** -/
theorem foldl_apply (s : Settings) (changes : List Change) :
    changes.foldl apply s = settled s changes := by
  induction changes generalizing s with
  | nil => rfl
  | cons c changes ih =>
      rw [List.foldl_cons, ih]
      simp only [settled, last_cons]
      cases c <;> rfl

end Change

/-! ## Meanings -/

/-- A number below 2^64 in decimal digits, perhaps after a plus sign. -/
inductive Whole : String → Nat → Prop
  | plain {digits : List Char} {n : Nat} : Decimal digits n → n < UInt64.size →
      Whole (String.ofList digits) n
  | plus {digits : List Char} {n : Nat} : Decimal digits n → n < UInt64.size →
      Whole (String.ofList ('+' :: digits)) n

/-- What a directive says. -/
inductive Says : Directive → Change → Prop
  | cacheCapacity {value : String} {n : Count} : Whole value n →
      Says ⟨"CACHECAPACITY", some value⟩ (.cacheCapacity n)
  | maxReaders {value : String} {n : Count} : Whole value n →
      Says ⟨"READERS", some value⟩ (.maxReaders n)
  | threshold {value : String} {x : Float32} : Number.single? value = some x →
      x.isFinite = true → ¬ x < 0 → Says ⟨"THRESHOLD", some value⟩ (.threshold x)
  | contacts (value? : Option String) : Says ⟨"CONTACTS", value?⟩ (.useContacts true)
  | noContacts (value? : Option String) : Says ⟨"NOCONTACTS", value?⟩ (.useContacts false)
  | permitTimeout {value : String} {n : Nat} : Whole value n →
      Says ⟨"PERMITTIMEOUT", some value⟩ (.permitTimeout (some n))
  | noPermitTimeout (value? : Option String) :
      Says ⟨"NOPERMITTIMEOUT", value?⟩ (.permitTimeout none)

/-- The names of directives. -/
def names : List String :=
  ["CACHECAPACITY", "READERS", "THRESHOLD", "CONTACTS", "NOCONTACTS", "PERMITTIMEOUT",
    "NOPERMITTIMEOUT"]

/-- What is wrong with a directive that says nothing. -/
inductive Faulty : Directive → SettingsError → Prop
  | unknown {name : String} {value? : Option String} : name ∉ names →
      Faulty ⟨name, value?⟩ (.unknownDirective name)
  | invalid {name : String} {value? : Option String} : name ∈ names →
      (∀ c, ¬ Says ⟨name, value?⟩ c) → Faulty ⟨name, value?⟩ (.invalidValue name (value?.getD ""))

theorem Says.name_mem {d : Directive} {c : Change} (h : Says d c) : d.name ∈ names := by
  cases h <;> simp [names]

/-- A directive says something or is faulty. -/
theorem says_or_faulty (d : Directive) : (∃ c, Says d c) ∨ ∃ e, Faulty d e := by
  by_cases hsays : ∃ c, Says d c
  · exact .inl hsays
  · by_cases hname : d.name ∈ names
    · exact .inr ⟨_, .invalid hname fun c hc => hsays ⟨c, hc⟩⟩
    · exact .inr ⟨_, .unknown hname⟩

theorem Faulty.not_says {d : Directive} {e : SettingsError} {c : Change} (h : Faulty d e) :
    ¬ Says d c := by
  cases h with
  | unknown hname => exact fun hsays => hname hsays.name_mem
  | invalid _ hnone => exact hnone c

/-! ## Values -/

theorem natBelow?_eq_some_iff {value : String} {n : Nat} :
    Number.natBelow? Directive.wordBound value = some n ↔ Whole value n := by
  rw [Number.natBelow?, Option.filter_eq_some_iff, nat?_eq_some_iff, decide_eq_true_eq]
  constructor
  · rintro ⟨hdigits, hbound⟩
    rw [← String.ofList_toList (s := value)]
    unfold Number.withoutPlus at hdigits
    split at hdigits
    · next digits heq =>
      rw [heq]
      exact .plus hdigits hbound
    · exact .plain hdigits hbound
  · intro h
    cases h with
    | plain hdigits hbound =>
        refine ⟨?_, hbound⟩
        rw [String.toList_ofList]
        unfold Number.withoutPlus
        split
        · exact absurd (hdigits.isDigit '+' List.mem_cons_self) (by decide)
        · exact hdigits
    | plus hdigits hbound =>
        refine ⟨?_, hbound⟩
        rw [String.toList_ofList]
        exact hdigits

theorem count?_eq_some_iff {value : String} {n : Count} :
    Directive.count? value = some n ↔ Whole value n := by
  rw [Directive.count?, Option.bind_eq_some_iff]
  constructor
  · rintro ⟨m, hm, h⟩
    split at h
    · cases h
      exact natBelow?_eq_some_iff.mp hm
    · cases h
  · intro h
    exact ⟨n, natBelow?_eq_some_iff.mpr h, dif_pos n.2⟩

theorem threshold?_eq_some_iff {value : String} {x : Float32} :
    Directive.threshold? value = some x ↔
      Number.single? value = some x ∧ x.isFinite = true ∧ ¬ x < 0 := by
  simp [Directive.threshold?, Option.filter_eq_some_iff]

section ReadValue

variable {α : Type} {d : Directive} {read : String → Option α} {change : α → Settings}

theorem map_readValue_of_some {value : String} {a : α} (hvalue : d.value? = some value)
    (h : read value = some a) : (d.readValue read).map change = .ok (change a) := by
  rw [Directive.readValue, hvalue, Option.bind_some, h]
  rfl

theorem map_readValue_of_none (h : ∀ value a, d.value? = some value → read value ≠ some a) :
    (d.readValue read).map change = .error d.invalid := by
  have hnone : d.value?.bind read = none := by
    rw [Option.eq_none_iff_forall_ne_some]
    intro a ha
    obtain ⟨value, hvalue, hread⟩ := Option.bind_eq_some_iff.mp ha
    exact h value a hvalue hread
  rw [Directive.readValue, hnone]
  rfl

end ReadValue

/-! ## Directives -/

/-- A directive that says a change makes it. -/
theorem Says.apply {d : Directive} {c : Change} (h : Says d c) (s : Settings) :
    d.apply s = .ok (c.apply s) := by
  cases h with
  | cacheCapacity hn => exact map_readValue_of_some rfl (count?_eq_some_iff.mpr hn)
  | maxReaders hn => exact map_readValue_of_some rfl (count?_eq_some_iff.mpr hn)
  | threshold hx hfinite hpos =>
      exact map_readValue_of_some rfl (threshold?_eq_some_iff.mpr ⟨hx, hfinite, hpos⟩)
  | contacts => rfl
  | noContacts => rfl
  | permitTimeout hn => exact map_readValue_of_some rfl (natBelow?_eq_some_iff.mpr hn)
  | noPermitTimeout => rfl

/-- A directive of a known name that says nothing is refused for its value. -/
theorem apply_eq_invalid {d : Directive} (hname : d.name ∈ names) (hnone : ∀ c, ¬ Says d c)
    (s : Settings) : d.apply s = .error d.invalid := by
  obtain ⟨name, value?⟩ := d
  simp only [names, List.mem_cons, List.not_mem_nil, or_false] at hname
  rcases hname with rfl | rfl | rfl | rfl | rfl | rfl | rfl
  · refine map_readValue_of_none ?_
    rintro value n rfl hn
    exact hnone _ (.cacheCapacity (count?_eq_some_iff.mp hn))
  · refine map_readValue_of_none ?_
    rintro value n rfl hn
    exact hnone _ (.maxReaders (count?_eq_some_iff.mp hn))
  · refine map_readValue_of_none ?_
    rintro value x rfl hx
    obtain ⟨hx, hfinite, hpos⟩ := threshold?_eq_some_iff.mp hx
    exact hnone _ (.threshold hx hfinite hpos)
  · exact absurd (.contacts value?) (hnone _)
  · exact absurd (.noContacts value?) (hnone _)
  · refine map_readValue_of_none ?_
    rintro value n rfl hn
    exact hnone _ (.permitTimeout (natBelow?_eq_some_iff.mp hn))
  · exact absurd (.noPermitTimeout value?) (hnone _)

/-- A directive without a meaning is refused for its name. -/
theorem apply_eq_unknown {d : Directive} (hname : d.name ∉ names) (s : Settings) :
    d.apply s = .error (.unknownDirective d.name) := by
  simp only [names, List.mem_cons, List.not_mem_nil, or_false, not_or] at hname
  unfold Directive.apply
  split <;> simp_all

theorem Faulty.apply {d : Directive} {e : SettingsError} (h : Faulty d e) (s : Settings) :
    d.apply s = .error e := by
  cases h with
  | unknown hname => exact apply_eq_unknown hname s
  | invalid hname hnone => exact apply_eq_invalid hname hnone s

end Spelling.Settings
