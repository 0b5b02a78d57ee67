import Spelling.Locale.Tag
import Spelling.Proofs.Folder
import Spelling.Proofs.WordList.Steady

/-!
# Contacts that are turned off

Two sources may differ in their contacts only: each main list comes to the same in both, whether it
is read or cannot be.  A dictionary whose contacts are turned off answers alike in both, since no
contacts are then among the lists that it searches (`SameMain.reply`).

    in memory    the lists by locale are the same               sameMain_memory
    in folders   everything is the same but what stands under
                 `contacts.dic`, and the locale has a tag       sameMain_folder

Under `contacts.dic` a folder would also have the main list of a language of that name.  No tag has
one, since the language of a tag has at most three letters.
-/

namespace Spelling

/-! ## File names -/

theorem toLower_ne_slash {c : Char} (h : c ≠ '/') : c.toLower ≠ '/' := by
  have hshift : ('a'.val - 'A'.val).toNat = 32 := rfl
  have hslash : '/'.val.toNat = 47 := rfl
  have hfirst : 'A'.val.toNat = 65 := rfl
  have hlast : 'Z'.val.toNat = 90 := rfl
  delta Char.toLower
  split
  · next hc =>
    intro heq
    have hval := congrArg (fun d : Char => d.val.toNat) heq
    simp only [UInt32.toNat_add, ge_iff_le, UInt32.le_iff_toNat_le] at hval hc
    omega
  · exact h

theorem toUpper_ne_slash {c : Char} (h : c ≠ '/') : c.toUpper ≠ '/' := by
  have hshift : ('A'.val - 'a'.val).toNat = 2 ^ 32 - 32 := rfl
  have hslash : '/'.val.toNat = 47 := rfl
  have hfirst : 'a'.val.toNat = 97 := rfl
  have hlast : 'z'.val.toNat = 122 := rfl
  delta Char.toUpper
  split
  · next hc =>
    intro heq
    have hval := congrArg (fun d : Char => d.val.toNat) heq
    simp only [UInt32.toNat_add, UInt32.le_iff_toNat_le] at hval hc
    omega
  · exact h

/-- What is known of the parts of a locale that is read from a tag. -/
structure Locale.Tagged (l : Locale) : Prop where
  short : l.language.toList.length ≤ 3
  language : '/' ∉ l.language.toList
  subtags : ∀ s ∈ l.subtags, '/' ∉ s.toList

namespace Locale

theorem slash_not_mem_asciiLower {s : String} (h : '/' ∉ s.toList) :
    '/' ∉ (asciiLower s).toList := by
  rw [asciiLower, String.toList_ofList, List.mem_map]
  rintro ⟨c, hc, heq⟩
  exact toLower_ne_slash (fun hslash => h (hslash ▸ hc)) heq

theorem slash_not_mem_asciiUpper {s : String} (h : '/' ∉ s.toList) :
    '/' ∉ (asciiUpper s).toList := by
  rw [asciiUpper, String.toList_ofList, List.mem_map]
  rintro ⟨c, hc, heq⟩
  exact toUpper_ne_slash (fun hslash => h (hslash ▸ hc)) heq

theorem slash_not_mem_asciiTitle {s : String} (h : '/' ∉ s.toList) :
    '/' ∉ (asciiTitle s).toList := by
  rw [asciiTitle, String.toList_ofList]
  cases hs : s.toList with
  | nil => exact List.not_mem_nil
  | cons c cs =>
      rw [hs] at h
      rw [asciiTitleChars, List.mem_cons, List.mem_map]
      rintro (heq | ⟨d, hd, heq⟩)
      · exact toUpper_ne_slash (fun hslash => h (hslash ▸ List.mem_cons_self)) heq.symm
      · exact toLower_ne_slash (fun hslash => h (hslash ▸ List.mem_cons_of_mem _ hd)) heq

theorem slash_not_mem_of_isSubtag {s : List Char} (h : isSubtag s = true) : '/' ∉ s := by
  rw [isSubtag, Bool.and_eq_true, List.all_eq_true] at h
  intro hmem
  exact absurd (h.2 _ hmem) (by decide)

theorem slash_not_mem_intercalate {parts : List String} (h : ∀ s ∈ parts, '/' ∉ s.toList) :
    '/' ∉ ("_".intercalate parts).toList := by
  induction parts with
  | nil => exact List.not_mem_nil
  | cons s parts ih =>
      obtain ⟨hs, hparts⟩ := List.forall_mem_cons.mp h
      cases parts with
      | nil => rwa [String.intercalate_singleton]
      | cons t parts =>
          rw [String.intercalate_cons_cons, String.toList_append, String.toList_append,
            List.mem_append, List.mem_append]
          rintro ((hmem | hmem) | hmem)
          · exact hs hmem
          · exact absurd hmem (by decide)
          · exact ih hparts hmem

theorem takeIf_fst {form : List Char → Bool} {subtags : List (List Char)} {s : List Char}
    (h : (takeIf form subtags).1 = some s) : s ∈ subtags := by
  cases subtags with
  | nil => cases h
  | cons t subtags =>
      rw [takeIf] at h
      split at h
      · cases h
        exact List.mem_cons_self
      · cases h

theorem takeIf_snd {form : List Char → Bool} {subtags : List (List Char)} {s : List Char}
    (h : s ∈ (takeIf form subtags).2) : s ∈ subtags := by
  cases subtags with
  | nil => cases h
  | cons t subtags =>
      rw [takeIf] at h
      split at h
      · exact List.mem_cons_of_mem _ h
      · exact h

theorem tagged_ofSubtags {language : List Char} {subtags : List (List Char)}
    (hlanguage : isLanguage language = true) (hfirst : '/' ∉ language)
    (hsubtags : ∀ s ∈ subtags, '/' ∉ s) : (ofSubtags language subtags).Tagged where
  short := by
    simp only [isLanguage, Bool.and_eq_true, decide_eq_true_eq] at hlanguage
    show (asciiLower (String.ofList language)).toList.length ≤ 3
    rw [asciiLower, String.toList_ofList, List.length_map, String.toList_ofList]
    exact hlanguage.1.2
  language := slash_not_mem_asciiLower (by rwa [String.toList_ofList])
  subtags := by
    intro s hs
    simp only [ofSubtags, Locale.subtags, List.mem_append, Option.mem_toList] at hs
    rcases hs with (hs | hs) | hs
    · obtain ⟨script, hscript, rfl⟩ := Option.map_eq_some_iff.mp hs
      exact slash_not_mem_asciiTitle (by
        rw [String.toList_ofList]
        exact hsubtags _ (takeIf_fst hscript))
    · obtain ⟨region, hregion, rfl⟩ := Option.map_eq_some_iff.mp hs
      exact slash_not_mem_asciiUpper (by
        rw [String.toList_ofList]
        exact hsubtags _ (takeIf_snd (takeIf_fst hregion)))
    · rw [variantOf] at hs
      split at hs
      · cases hs
      · cases hs
        apply slash_not_mem_intercalate
        intro s hs
        obtain ⟨t, ht, rfl⟩ := List.mem_map.mp hs
        rw [String.toList_ofList]
        exact hsubtags t (takeIf_snd (takeIf_snd ht))

/-- A locale that is read from a tag has no slash and a short language. -/
theorem tagged_of_parse {tag : String} {l : Locale} (h : parse tag = .ok l) : l.Tagged := by
  rw [parse] at h
  split at h
  · cases h
  · next language subtags _ =>
    split at h
    · next hall =>
      rw [List.all_eq_true, List.forall_mem_cons] at hall
      split at h
      · next hlanguage =>
        cases h
        exact tagged_ofSubtags hlanguage (slash_not_mem_of_isSubtag hall.1)
          fun s hs => slash_not_mem_of_isSubtag (hall.2 s hs)
      · cases h
    · cases h

theorem Tagged.base {l : Locale} (h : l.Tagged) : l.base.Tagged where
  short := by
    show (asciiLower l.language).toList.length ≤ 3
    rw [asciiLower, String.toList_ofList, List.length_map]
    exact h.short
  language := slash_not_mem_asciiLower h.language
  subtags := by
    intro s hs
    cases hs

end Locale

namespace WordList.Source

theorem isName_fileName {l : Locale} (h : l.Tagged) : Folder.IsName (fileName l) := by
  rw [Folder.IsName, fileName, String.toList_append, List.mem_append, Locale.display]
  rintro (hmem | hmem)
  · exact Locale.slash_not_mem_intercalate (List.forall_mem_cons.mpr ⟨h.language, h.subtags⟩) hmem
  · exact absurd hmem (by decide)

theorem fileName_ne_contactsName {l : Locale} (h : l.Tagged) : fileName l ≠ contactsName := by
  intro heq
  have hchars : l.display.toList ++ ".dic".toList = contactsName.toList :=
    String.toList_append.symm.trans (congrArg String.toList heq)
  cases hsubtags : l.subtags with
  | nil =>
      -- The language alone is too short.
      have hdisplay : l.display = l.language := by
        rw [Locale.display, hsubtags, String.intercalate_singleton]
      have hlength := congrArg List.length hchars
      rw [hdisplay, List.length_append] at hlength
      have hshort := h.short
      have hdic : ".dic".toList.length = 4 := rfl
      have hname : contactsName.toList.length = 12 := rfl
      omega
  | cons s subtags =>
      have hunderscore : '_' ∈ contactsName.toList := by
        rw [← hchars, Locale.display, hsubtags, String.intercalate_cons_cons]
        simp
      exact absurd hunderscore (by decide)

theorem isName_contactsName : Folder.IsName contactsName := by
  rw [Folder.IsName]
  decide

/-! ## Main lists -/

/-- The main list of a locale comes to the same in both sources. -/
def SameMain (s t : Source) (l : Locale) : Prop :=
  (s.mainList l).value = (t.mainList l).value

/-- Sources in memory may have any contacts. -/
theorem sameMain_memory (lists : List (Locale × String)) (contacts? contacts'? : Option String)
    (l : Locale) : SameMain (.memory lists contacts?) (.memory lists contacts'?) l := rfl

theorem value_mainList_folder (f : Folder) (l : Locale) :
    (mainList (.folder f) l).value =
      match ([l, l.base].map fileName).find? f.isFile with
      | none => .error (.missing l)
      | some name => (ofFile f name).value := by
  unfold mainList
  dsimp only
  cases ([l, l.base].map fileName).find? f.isFile with
  | none => rfl
  | some name => rfl

/-- Folders may have anything under the name of the contacts. -/
theorem sameMain_folder {f g : Folder} (h : f.SameBut contactsName g) {l : Locale}
    (hl : l.Tagged) : SameMain (.folder f) (.folder g) l := by
  have hread : ∀ m : Locale, m.Tagged → f.readBytes (fileName m) = g.readBytes (fileName m) :=
    fun m hm => h.readBytes isName_contactsName (isName_fileName hm) (fileName_ne_contactsName hm)
  have hfile : ∀ m : Locale, m.Tagged → f.isFile (fileName m) = g.isFile (fileName m) :=
    fun m hm => by simp only [Folder.isFile, hread m hm]
  have htext : ∀ m : Locale, m.Tagged →
      (ofFile f (fileName m)).value = (ofFile g (fileName m)).value := by
    intro m hm
    unfold ofFile
    rw [Folder.readText, hread m hm, ← Folder.readText]
  rw [SameMain, value_mainList_folder, value_mainList_folder]
  simp only [List.map_cons, List.map_nil, List.find?_cons, List.find?_nil, hfile l hl,
    hfile l.base hl.base]
  cases g.isFile (fileName l) with
  | true => exact htext l hl
  | false =>
      cases g.isFile (fileName l.base) with
      | true => exact htext l.base hl.base
      | false => rfl

/-! ## Answers without contacts -/

/-- Contacts that are turned off do not show. -/
theorem reply_ofLists_of_off (s t : Source) (l : Locale) (main : WordList)
    (contacts? contacts'? : Option WordList) (n : Nat) (a : Ask) :
    (Backend.ofKind s.kind).reply (Dictionary.ofLists l main contacts? ⟨false, n⟩) a =
      (Backend.ofKind t.kind).reply (Dictionary.ofLists l main contacts'? ⟨false, n⟩) a := by
  cases a with
  | contains words =>
      have hcontains : ∀ (u : Source) (listed? : Option WordList),
          (Backend.ofKind u.kind).containsAny (Dictionary.ofLists l main listed? ⟨false, n⟩) words =
            .ok (words.any fun word => [main].any (·.contains word)) :=
        fun _ _ => Backend.containsAny_of_ok fun _ _ => rfl
      rw [Backend.reply, Backend.reply, hcontains, hcontains]
  | suggest q session => rfl
  | hasMain => rfl

/-- While the contacts are off, dictionaries of the same main list answer alike. -/
theorem SameMain.reply {s t : Source} {l : Locale} (h : SameMain s t l) (n : Nat) (a : Ask) :
    (s.fresh l ⟨false, n⟩).reply (Backend.ofKind s.kind) a =
      (t.fresh l ⟨false, n⟩).reply (Backend.ofKind t.kind) a := by
  rw [fresh_eq, fresh_eq, h]
  cases (t.mainList l).value with
  | error e => rfl
  | ok main =>
      simp only [Dictionary.open?_eq]
      cases layList n Dictionary.scratchBytes with
      | error overflow => rfl
      | ok _ => exact reply_ofLists_of_off s t l main _ _ n a

end WordList.Source

end Spelling
