import Spelling.Proofs.Folder

/-!
# Folders that hold some files

A folder holds exactly some files, each a text, if each name stands there for what the files have
under it and for nothing else.  Reading then comes to looking up a name among the files:

    the files have the name        the text is read           readText_of_lookup
    they do not                    nothing is read            isFile_eq

A directory has no name above 255 bytes, and the system follows no path to a file that is above 4095
bytes or holds a NUL.  So a file that is held is in reach (`InReach`).  Nothing is asked of the names
that no file has: such a name leads to nothing, for whatever reason.
-/

namespace Spelling.Folder

/-- The system follows the path to a file of this name. -/
structure InReach (f : Folder) (name : String) : Prop where
  short : name.utf8ByteSize ≤ nameLimit
  path : (f.pathOf name).utf8ByteSize ≤ pathLimit
  noNul : '\x00' ∉ (f.pathOf name).toList

/-- The folder has exactly these files, each with its text. -/
structure Holds (f : Folder) (files : List (String × String)) : Prop where
  nodes : ∀ name, f.nodes.lookup name = (files.lookup name).map fun text => .file text.toUTF8
  reach : ∀ file ∈ files, f.InReach file.1

variable {f : Folder} {files : List (String × String)} {name text : String}

theorem exists_of_lookup_isSome {α : Type} {entries : List (String × α)}
    (h : (entries.lookup name).isSome = true) : ∃ entry ∈ entries, entry.1 = name := by
  obtain ⟨entry, hentry, hname⟩ := List.lookup_isSome_iff.mp h
  exact ⟨entry, hentry, (beq_iff_eq.mp hname).symm⟩

theorem lookup_map_snd {α β : Type} (g : α → β) (entries : List (String × α)) (name : String) :
    (entries.map fun entry => (entry.1, g entry.2)).lookup name =
      (entries.lookup name).map g := by
  induction entries with
  | nil => rfl
  | cons entry entries ih =>
      rw [List.map_cons, List.lookup_cons, List.lookup_cons, ih]
      cases name == entry.1 <;> rfl

/-- A folder that is made of the files holds them if it has them in reach. -/
theorem holds_of_reach (path : String) (h : ∀ file ∈ files, InReach
    ⟨path, files.map fun file => (file.1, .file file.2.toUTF8)⟩ file.1) :
    Holds ⟨path, files.map fun file => (file.1, .file file.2.toUTF8)⟩ files :=
  ⟨lookup_map_snd (fun text => Node.file text.toUTF8) files, h⟩

/-! ## Nodes -/

/-- Nothing lies below a name where no file has a longer path. -/
theorem Holds.nodesBelow (h : f.Holds files) (hnames : ∀ file ∈ files, IsName file.1)
    (name : String) : f.nodesBelow [name] = [] := by
  rw [Folder.nodesBelow, List.filterMap_eq_nil_iff]
  · rintro ⟨n, node⟩ hnode
    rw [Option.map_eq_none_iff, Option.eq_none_iff_forall_ne_some]
    intro rest hrest
    have hlookup : (f.nodes.lookup n).isSome = true :=
      List.lookup_isSome_iff.mpr ⟨_, hnode, beq_self_eq_true n⟩
    rw [h.nodes, Option.isSome_map] at hlookup
    obtain ⟨file, hfile, rfl⟩ := exists_of_lookup_isSome hlookup
    apply hnames file hfile
    rw [below?_eq_some hrest]
    simp
  · simp

theorem Holds.node? (h : f.Holds files) (hnames : ∀ file ∈ files, IsName file.1)
    (name : String) :
    f.node? [name] = (files.lookup name).map fun text => .file text.toUTF8 := by
  have hjoined : "/".intercalate [name].reverse = name := String.intercalate_singleton
  simp only [Folder.node?, hjoined, h.nodesBelow hnames, h.nodes]
  cases files.lookup name <;> rfl

/-! ## Paths -/

/-- A name leads on from the folder itself. -/
theorem startOf_of_isName (h : IsName name) : startOf name = .inside [] := by
  rw [startOf, if_neg]
  rw [String.startsWith_string_iff]
  exact fun hslash => h (hslash.subset (by decide))

/-- A name of more than two characters neither stays nor goes back. -/
theorem step_of_length (hlength : 2 < name.length) : f.step (.inside []) name =
    if nameLimit < name.utf8ByteSize then .error .nameTooLong
    else if (f.node? [name]).isSome then .ok (.inside [name]) else .error .notFound := by
  have hne : ∀ s : String, s.length ≤ 2 → name ≠ s := by
    rintro s hs rfl
    omega
  have hroot : f.isDirectory (.inside []) = true := rfl
  simp only [Folder.step, hroot, Bool.not_true, Bool.false_eq_true, if_false,
    hne "" (by decide), hne "." (by decide), hne ".." (by decide), or_self]

theorem pathOf_ne_empty (hname : name ≠ "") : (f.pathOf name).isEmpty = false := by
  rw [Bool.eq_false_iff, ne_eq, String.isEmpty_iff, pathOf]
  split
  · exact hname
  · split <;> simp [String.append_eq_empty_iff, hname]

/-! ## Reading -/

/-- **A file that is held is read.** -/
theorem Holds.readBytes_of_lookup (h : f.Holds files) (hnames : ∀ file ∈ files, IsName file.1)
    (hlength : 2 < name.length) (htext : files.lookup name = some text) :
    f.readBytes name = .ok text.toUTF8 := by
  have hlisted : (files.lookup name).isSome = true := by
    rw [htext]
    rfl
  obtain ⟨file, hfile, rfl⟩ := exists_of_lookup_isSome hlisted
  obtain ⟨hshort, hpath, hnul⟩ := h.reach file hfile
  have hnode : f.node? [file.1] = some (.file text.toUTF8) := by
    rw [h.node? hnames, htext, Option.map_some]
  have hfind : f.find file.1 = .ok (.inside [file.1]) := by
    have hne : file.1 ≠ "" := by
      intro hempty
      rw [hempty] at hlength
      exact absurd hlength (by decide)
    rw [find_of_isName (hnames file hfile), startOf_of_isName (hnames file hfile),
      step_of_length hlength, hnode, pathOf_ne_empty hne, if_neg (by simpa using hnul),
      if_neg (by decide), if_neg (by omega), if_neg (by omega)]
    rfl
  rw [Folder.readBytes, hfind]
  simp only [bind, Except.bind, hnode]

theorem Holds.readText_of_lookup (h : f.Holds files) (hnames : ∀ file ∈ files, IsName file.1)
    (hlength : 2 < name.length) (htext : files.lookup name = some text) :
    f.readText name = .ok text := by
  have hdecode : String.fromUTF8? text.toUTF8 = some text := dif_pos text.isValidUTF8
  rw [readText, h.readBytes_of_lookup hnames hlength htext]
  show textOf text.toUTF8 = .ok text
  rw [textOf, hdecode]

/-- A name that no file has leads to nothing. -/
theorem Holds.readBytes_of_lookup_none (h : f.Holds files)
    (hnames : ∀ file ∈ files, IsName file.1) (hname : IsName name) (hlength : 2 < name.length)
    (hnone : files.lookup name = none) : ∃ e, f.readBytes name = .error e := by
  have hnode : f.node? [name] = none := by
    rw [h.node? hnames, hnone, Option.map_none]
  have hfind : ∃ e, f.find name = .error e := by
    rw [find_of_isName hname, startOf_of_isName hname, step_of_length hlength, hnode]
    split
    · exact ⟨_, rfl⟩
    · split
      · exact ⟨_, rfl⟩
      · split
        · exact ⟨_, rfl⟩
        · split <;> exact ⟨_, rfl⟩
  obtain ⟨e, he⟩ := hfind
  exact ⟨e, by rw [Folder.readBytes, he]; rfl⟩

/-- **A name is that of a file exactly if some file that is held has it.** -/
theorem Holds.isFile_eq (h : f.Holds files) (hnames : ∀ file ∈ files, IsName file.1)
    (hname : IsName name) (hlength : 2 < name.length) :
    f.isFile name = (files.lookup name).isSome := by
  cases htext : files.lookup name with
  | some text =>
      rw [isFile, h.readBytes_of_lookup hnames hlength htext]
      rfl
  | none =>
      obtain ⟨e, he⟩ := h.readBytes_of_lookup_none hnames hname hlength htext
      rw [isFile, he]
      rfl

end Spelling.Folder
