import Mathlib
import Spelling.Proofs.Holding
import Spelling.Proofs.Locale.NormalForm
import Spelling.Proofs.WordList.Contacts

/-!
# A folder and memory open alike

The lists of some locales, and perhaps a list of contacts, may be kept in memory or as the files of
a folder.  In memory a list is found by its locale, in the folder by a name made of how the locale is
displayed:

    in memory                  in the folder
    the list of l              the text under `<l>.dic`                  lookup_filesOf
    the contacts               the text under `contacts.dic`             lookup_filesOf_contactsName

Locales that are read from tags are told apart by how they are displayed, and none is displayed as
`contacts`.  So the two tables have the same texts, and whatever is opened is the same
(`folder_and_memory_open_alike`).
-/

namespace Spelling.WordList.Source

/-- A locale that has a tag. -/
def HasTag (l : Locale) : Prop := ∃ tag, Locale.parse tag = .ok l

/-- The files that keep some lists and the contacts. -/
def filesOf (lists : List (Locale × String)) (contacts? : Option String) :
    List (String × String) :=
  lists.map (fun list => (fileName list.1, list.2)) ++
    contacts?.toList.map fun text => (contactsName, text)

variable {lists : List (Locale × String)} {contacts? : Option String} {f : Folder} {l m : Locale}

/-! ## Names of files -/

theorem HasTag.base (h : HasTag l) : HasTag l.base :=
  ⟨l.language, Locale.parse_language h.choose_spec⟩

theorem HasTag.tagged (h : HasTag l) : l.Tagged :=
  Locale.tagged_of_parse h.choose_spec

/-- No two locales share a file. -/
theorem HasTag.fileName_inj (hl : HasTag l) (hm : HasTag m) (h : fileName l = fileName m) :
    l = m :=
  Locale.eq_of_display_eq hl.choose_spec hm.choose_spec ((String.append_left_inj _).mp h)

theorem isName_of_mem_filesOf (contacts? : Option String)
    (hlists : ∀ list ∈ lists, HasTag list.1) :
    ∀ file ∈ filesOf lists contacts?, Folder.IsName file.1 := by
  intro file hfile
  rcases List.mem_append.mp hfile with hfile | hfile
  · obtain ⟨list, hlist, rfl⟩ := List.mem_map.mp hfile
    exact isName_fileName (hlists list hlist).tagged
  · obtain ⟨text, -, rfl⟩ := List.mem_map.mp hfile
    exact isName_contactsName

theorem length_fileName (l : Locale) : 2 < (fileName l).length := by
  have hdic : ".dic".length = 4 := rfl
  rw [fileName, String.length_append, hdic]
  omega

/-! ## Looking up -/

/-- Under the name of a locale the files have its list. -/
theorem lookup_filesOf (contacts? : Option String) (hlists : ∀ list ∈ lists, HasTag list.1)
    (hl : HasTag l) :
    (filesOf lists contacts?).lookup (fileName l) = lists.lookup l := by
  have hcontacts : (contacts?.toList.map fun text => (contactsName, text)).lookup (fileName l) =
      none := by
    have hne := fileName_ne_contactsName hl.tagged
    cases contacts? <;> simp [hne]
  rw [filesOf, List.lookup_append, hcontacts, Option.or_none]
  induction lists with
  | nil => rfl
  | cons list lists ih =>
      obtain ⟨hlist, hlists⟩ := List.forall_mem_cons.mp hlists
      have hname : (fileName l == fileName list.1) = (l == list.1) := by
        rw [Bool.eq_iff_iff, beq_iff_eq, beq_iff_eq]
        exact ⟨hl.fileName_inj hlist, congrArg fileName⟩
      rw [List.map_cons, List.lookup_cons, List.lookup_cons, hname, ih hlists]

/-- Under the name of the contacts the files have the contacts. -/
theorem lookup_filesOf_contactsName (contacts? : Option String)
    (hlists : ∀ list ∈ lists, HasTag list.1) :
    (filesOf lists contacts?).lookup contactsName = contacts? := by
  have hmain : (lists.map fun list => (fileName list.1, list.2)).lookup contactsName = none := by
    rw [List.lookup_eq_none_iff]
    intro file hfile
    obtain ⟨list, hlist, rfl⟩ := List.mem_map.mp hfile
    simpa using (fileName_ne_contactsName (hlists list hlist).tagged).symm
  rw [filesOf, List.lookup_append, hmain, Option.none_or]
  cases contacts? <;> simp

/-! ## Reading -/

/-- What the text of a locale, or else that of its bare language, is read as. -/
def mainOf (lists : List (Locale × String)) (l : Locale) : Except OpenError WordList :=
  match (lists.lookup l).or (lists.lookup l.base) with
  | some text => (ofText text).value
  | none => .error (.missing l)

theorem value_mainList_memory (lists : List (Locale × String)) (contacts? : Option String)
    (l : Locale) : (mainList (.memory lists contacts?) l).value = mainOf lists l := by
  unfold mainList mainOf
  dsimp only
  cases (lists.lookup l).or (lists.lookup l.base) <;> rfl

/-- What the text of the contacts is read as, if it can be read. -/
def contactsOf (contacts? : Option String) : Option WordList :=
  contacts?.bind fun text => (ofText text).value.toOption

theorem value_orReport (written : Except OpenError WordList) :
    (orReport written).value = written.toOption := by
  cases written <;> rfl

theorem value_contactsList_memory (lists : List (Locale × String)) (contacts? : Option String) :
    (contactsList (.memory lists contacts?)).value = contactsOf contacts? := by
  rw [contactsList, writtenContacts, contactsOf]
  cases contacts? with
  | none => rfl
  | some text =>
      dsimp only [Option.map_some]
      rw [Logged.value_bind, value_orReport, Option.bind_some]

theorem ofFile_eq {name text : String} (h : f.readText name = .ok text) :
    ofFile f name = ofText text := by
  unfold ofFile
  rw [h]

section Held

variable (hlists : ∀ list ∈ lists, HasTag list.1) (hf : f.Holds (filesOf lists contacts?))
include hlists hf

theorem isFile_fileName (hl : HasTag l) : f.isFile (fileName l) = (lists.lookup l).isSome := by
  rw [hf.isFile_eq (isName_of_mem_filesOf contacts? hlists) (isName_fileName hl.tagged)
    (length_fileName l), lookup_filesOf contacts? hlists hl]

theorem ofFile_fileName (hl : HasTag l) {text : String} (htext : lists.lookup l = some text) :
    ofFile f (fileName l) = ofText text := by
  rw [← lookup_filesOf contacts? hlists hl] at htext
  exact ofFile_eq (hf.readText_of_lookup (isName_of_mem_filesOf contacts? hlists)
    (length_fileName l) htext)

/-- In a folder too the exact locale comes first and then the bare language. -/
theorem value_mainList_of_holds (hl : HasTag l) :
    (mainList (.folder f) l).value = mainOf lists l := by
  rw [value_mainList_folder, mainOf]
  simp only [List.map_cons, List.map_nil, List.find?_cons, List.find?_nil,
    isFile_fileName hlists hf hl, isFile_fileName hlists hf hl.base]
  cases hexact : lists.lookup l with
  | some text =>
      rw [Option.some_or]
      exact congrArg Logged.value (ofFile_fileName hlists hf hl hexact)
  | none =>
      rw [Option.none_or]
      cases hbase : lists.lookup l.base with
      | some text => exact congrArg Logged.value (ofFile_fileName hlists hf hl.base hbase)
      | none => rfl

/-- Contacts are read alike, and what is reported about them is the same. -/
theorem contactsList_of_holds :
    contactsList (.folder f) = contactsList (.memory lists contacts?) := by
  have hnames := isName_of_mem_filesOf contacts? hlists
  have hlookup := lookup_filesOf_contactsName contacts? hlists
  have hfile := hf.isFile_eq hnames isName_contactsName (by decide)
  have hwritten : writtenContacts (.folder f) = writtenContacts (.memory lists contacts?) := by
    simp only [writtenContacts, hfile, hlookup]
    cases contacts? with
    | none => rfl
    | some text =>
        exact congrArg some (ofFile_eq (hf.readText_of_lookup hnames (by decide) hlookup))
  rw [contactsList, hwritten, contactsList]

theorem fresh_of_holds (hl : HasTag l) (o : Options) :
    fresh (.folder f) l o = fresh (.memory lists contacts?) l o := by
  rw [fresh_eq, fresh_eq, value_mainList_of_holds hlists hf hl, value_mainList_memory,
    contactsList_of_holds hlists hf]

/-- A folder opens the dictionary over the list of the locale, if this can be read and there is room
for the sessions. -/
theorem load_of_holds (hl : HasTag l) (o : Options) :
    (∀ error, mainOf lists l = .error error → (load (.folder f) l o).value = .failed error) ∧
      ∀ main, mainOf lists l = .ok main →
        (∀ d, Dictionary.open? l main (contactsOf contacts?) o = .ok d →
          (load (.folder f) l o).value = .opened d) ∧
        ∀ overflow, Dictionary.open? l main (contactsOf contacts?) o = .error overflow →
          (load (.folder f) l o).value = .broken overflow.message := by
  have hload : (load (.folder f) l o).value = fresh (.memory lists contacts?) l o :=
    fresh_of_holds hlists hf hl o
  rw [hload, fresh_eq, value_mainList_memory, value_contactsList_memory]
  refine ⟨?_, ?_⟩
  · intro error hmain
    rw [hmain]
  · intro main hmain
    rw [hmain]
    refine ⟨?_, ?_⟩
    · intro d hd
      dsimp only
      rw [hd]
    · intro overflow hoverflow
      dsimp only
      rw [hoverflow]

end Held

/-- **A folder and memory open alike.**  Some locales with tags have lists, and there may be
contacts, all of any content.  A folder that holds exactly their files and a source in memory that
has the same texts open every locale that has a tag, with all options, to the same: the same
dictionary, or the same failure.  Both read the text of the exact locale first and then that of the
bare language; what they open is the dictionary over this list and over the contacts, if these can be
read, and they fail as reading the list does.  No two locales share a file, and none has its list
under the name of the contacts. -/
theorem folder_and_memory_open_alike (hlists : ∀ list ∈ lists, HasTag list.1)
    (hf : f.Holds (filesOf lists contacts?)) :
    (∀ l o, HasTag l →
      (load (.folder f) l o).value = (load (.memory lists contacts?) l o).value) ∧
    (∀ l, HasTag l → (mainList (.folder f) l).value = mainOf lists l ∧
      (mainList (.memory lists contacts?) l).value = mainOf lists l) ∧
    (∀ l o, HasTag l →
      (∀ error, mainOf lists l = .error error → (load (.folder f) l o).value = .failed error) ∧
      ∀ main, mainOf lists l = .ok main →
        (∀ d, Dictionary.open? l main (contactsOf contacts?) o = .ok d →
          (load (.folder f) l o).value = .opened d) ∧
        ∀ overflow, Dictionary.open? l main (contactsOf contacts?) o = .error overflow →
          (load (.folder f) l o).value = .broken overflow.message) ∧
    (∀ l m, HasTag l → HasTag m → fileName l = fileName m → l = m) ∧
    ∀ l, HasTag l → fileName l ≠ contactsName ∧ fileName l.base ≠ contactsName := by
  refine ⟨fun l o hl => fresh_of_holds hlists hf hl o, fun l hl => ?_,
    fun l o hl => load_of_holds hlists hf hl o, fun l m hl hm => hl.fileName_inj hm, fun l hl => ?_⟩
  · exact ⟨value_mainList_of_holds hlists hf hl, value_mainList_memory lists contacts? l⟩
  · exact ⟨fileName_ne_contactsName hl.tagged, fileName_ne_contactsName hl.base.tagged⟩

/-- Another region of a language with one list and a region with a list that cannot be read, beside
contacts that cannot be read either. -/
theorem folder_and_memory_open_alike_of_unreadable :
    let en := Locale.ofLanguage "en"
    let lists := [(en, "1\nhello fq:200\n"), (en.withRegion "GB", "colour\n")]
    let f : Folder := ⟨"/lists", (filesOf lists (some "zoe")).map fun file =>
      (file.1, .file file.2.toUTF8)⟩
    (∀ list ∈ lists, HasTag list.1) ∧ f.Holds (filesOf lists (some "zoe")) ∧
      (load (.folder f) (en.withRegion "US") {}).value =
        (load (.memory lists (some "zoe")) (en.withRegion "US") {}).value ∧
      (load (.folder f) (en.withRegion "GB") {}).value =
        (load (.memory lists (some "zoe")) (en.withRegion "GB") {}).value := by
  intro en lists f
  have hlists : ∀ list ∈ lists, HasTag list.1 := by
    simp only [lists, List.forall_mem_cons]
    exact ⟨⟨"en", rfl⟩, ⟨"en-gb", rfl⟩, by simp⟩
  have hreach : ∀ file ∈ filesOf lists (some "zoe"), f.InReach file.1 := by
    simp only [lists, filesOf, List.map_cons, List.map_nil, Option.toList_some, List.cons_append,
      List.nil_append, List.forall_mem_cons]
    exact ⟨⟨by decide +kernel, by decide +kernel, by decide +kernel⟩,
      ⟨by decide +kernel, by decide +kernel, by decide +kernel⟩,
      ⟨by decide +kernel, by decide +kernel, by decide +kernel⟩, by simp⟩
  have hf := Folder.holds_of_reach "/lists" hreach
  obtain ⟨hload, -⟩ := folder_and_memory_open_alike hlists hf
  exact ⟨hlists, hf, hload _ _ ⟨"en_US", rfl⟩, hload _ _ ⟨"en_GB", rfl⟩⟩

end Spelling.WordList.Source
