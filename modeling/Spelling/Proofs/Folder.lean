import Mathlib.Data.List.Basic
import Spelling.Files

/-!
# Folders that differ in one name

Two folders may differ in what one name stands for.  Everything that is read under another name is
then the same, be it a text, a directory or a fault.

A name is a path of one step.  It leads to the node of that name, which is found by its whole name
or by what lies below it; neither has to do with the name that is hidden.
-/

namespace Spelling

/-- Two folders that differ at most in what one name stands for. -/
structure Folder.SameBut (hidden : String) (f g : Folder) : Prop where
  path : f.path = g.path
  nodes : f.nodes.filter (·.1 != hidden) = g.nodes.filter (·.1 != hidden)

/-- A name that is not a longer path. -/
def Folder.IsName (name : String) : Prop := '/' ∉ name.toList

theorem lookup_filter_of_ne {α : Type} {hidden name : String} (h : name ≠ hidden)
    (nodes : List (String × α)) :
    (nodes.filter (·.1 != hidden)).lookup name = nodes.lookup name := by
  induction nodes with
  | nil => rfl
  | cons node nodes ih =>
      obtain ⟨n, x⟩ := node
      rw [List.lookup_cons]
      by_cases hn : n = hidden
      · have hne : (name == n) = false := by simpa [hn] using h
        rw [List.filter_cons_of_neg (by simp [hn]), ih, hne]
      · rw [List.filter_cons_of_pos (by simpa using hn), List.lookup_cons, ih]

namespace Folder

theorem below?_eq_some {start text rest : List Char} (h : below? start text = some rest) :
    text = start ++ rest := by
  induction start generalizing text with
  | nil =>
      cases h
      rfl
  | cons c start ih =>
      cases text with
      | nil => cases h
      | cons d text =>
          rw [below?] at h
          split at h
          · next heq => rw [heq, ih h, List.cons_append]
          · cases h

theorem pieces_of_isName {name : String} (h : IsName name) : Text.splitAt '/' name = [name] := by
  have hpieces : ∀ cs : List Char, '/' ∉ cs → Text.pieces (· == '/') cs = [cs] := by
    intro cs hcs
    induction cs with
    | nil => rfl
    | cons c cs ih =>
        have hc : c ≠ '/' := fun hc => hcs (hc ▸ List.mem_cons_self)
        rw [Text.pieces, if_neg (by simpa using hc),
          ih fun hmem => hcs (List.mem_cons_of_mem _ hmem)]
  rw [Text.splitAt, hpieces _ h, List.map_singleton, String.ofList_toList]

variable {f g : Folder} {hidden name : String} {names : List String}

/-- Nothing that lies below another name is hidden. -/
theorem SameBut.nodesBelow (h : f.SameBut hidden g) (hhidden : IsName hidden) (name : String) :
    f.nodesBelow [name] = g.nodesBelow [name] := by
  have hfilter : ∀ e : Folder, e.nodesBelow [name] =
      (e.nodes.filter (·.1 != hidden)).filterMap fun node =>
        (below? ("/".intercalate [name] ++ "/").toList node.1.toList).map
          fun rest => (String.ofList rest, node.2) := by
    intro e
    rw [List.filterMap_filter]
    apply List.filterMap_congr
    intro node _
    by_cases hnode : node.1 = hidden
    · rw [if_neg (by simpa using hnode), Option.map_eq_none_iff, Option.eq_none_iff_forall_ne_some]
      intro rest hrest
      apply hhidden
      rw [← hnode, below?_eq_some hrest]
      simp
    · rw [if_pos (by simpa using hnode)]
      rfl
  rw [hfilter f, hfilter g, h.nodes]

theorem SameBut.node? (h : f.SameBut hidden g) (hhidden : IsName hidden) (hname : name ≠ hidden) :
    f.node? [name] = g.node? [name] := by
  have hlookup : f.nodes.lookup name = g.nodes.lookup name := by
    rw [← lookup_filter_of_ne hname f.nodes, h.nodes, lookup_filter_of_ne hname]
  have hjoined : "/".intercalate [name].reverse = name := String.intercalate_singleton
  simp only [Folder.node?, h.nodesBelow hhidden, hjoined, hlookup]

/-- A step stays, goes to the directory around, or goes to a node. -/
theorem step_eq_ok {p q : Place} {s : String} (h : f.step p s = .ok q) :
    q = p ∨ q = p.around ∨ ∃ names, p = .inside names ∧ q = .inside (s :: names) := by
  unfold step at h
  split at h
  · cases h
  · split at h
    · cases h
      exact .inl rfl
    · split at h
      · cases h
        exact .inr (.inl rfl)
      · split at h
        · cases h
        · split at h
          · split at h
            · cases h
              exact .inr (.inr ⟨_, rfl, rfl⟩)
            · cases h
          · cases h

/-- Where a path begins. -/
def startOf (path : String) : Place :=
  if path.startsWith "/" then .outside else .inside []

theorem startOf_cases (path : String) : startOf path = .outside ∨ startOf path = .inside [] := by
  rw [startOf]
  split
  · exact .inl rfl
  · exact .inr rfl

/-- A name is a path of one step. -/
theorem find_of_isName (h : IsName name) : f.find name =
    if (f.pathOf name).toList.contains '\x00' then .error .nulInName
    else if (f.pathOf name).isEmpty then .error .notFound
    else if pathLimit < (f.pathOf name).utf8ByteSize then .error .nameTooLong
    else f.step (startOf name) name := by
  rw [find, pieces_of_isName h, List.foldlM_cons]
  simp only [List.foldlM_nil, bind_pure, startOf]

/-- A name leads to the folder itself, to the node of that name or outside. -/
theorem names_of_find (h : IsName name) (hfind : f.find name = .ok (.inside names)) :
    names = [] ∨ names = [name] := by
  have hstep : f.step (startOf name) name = .ok (.inside names) := by
    rw [find_of_isName h] at hfind
    split at hfind
    · cases hfind
    · split at hfind
      · cases hfind
      · split at hfind
        · cases hfind
        · exact hfind
  rcases startOf_cases name with hstart | hstart
  · rcases step_eq_ok (hstart ▸ hstep) with heq | heq | ⟨_, heq, -⟩ <;> cases heq
  · rcases step_eq_ok (hstart ▸ hstep) with heq | heq | ⟨before, heq, hlast⟩
    · cases heq
      exact .inl rfl
    · cases heq
    · cases heq
      cases hlast
      exact .inr rfl

/-- Another name leads to the same place. -/
theorem SameBut.find (h : f.SameBut hidden g) (hhidden : IsName hidden) (hname : IsName name)
    (hne : name ≠ hidden) : f.find name = g.find name := by
  have hstep : f.step (startOf name) name = g.step (startOf name) name := by
    rcases startOf_cases name with hstart | hstart
    · rw [hstart]
      rfl
    · have hroot : ∀ e : Folder, e.isDirectory (.inside []) = true := fun _ => rfl
      simp only [hstart, Folder.step, hroot, h.node? hhidden hne]
  have hpath : f.pathOf name = g.pathOf name := by
    rw [pathOf, pathOf, h.path]
  rw [find_of_isName hname, find_of_isName hname, hpath, hstep]

/-- Under another name the same bytes are read. -/
theorem SameBut.readBytes (h : f.SameBut hidden g) (hhidden : IsName hidden) (hname : IsName name)
    (hne : name ≠ hidden) : f.readBytes name = g.readBytes name := by
  rw [Folder.readBytes, Folder.readBytes, h.find hhidden hname hne]
  cases hfind : g.find name with
  | error e => rfl
  | ok p =>
      cases p with
      | outside => rfl
      | inside names =>
          have hnode : f.node? names = g.node? names := by
            rcases names_of_find hname hfind with rfl | rfl
            · rfl
            · exact h.node? hhidden hne
          simp only [bind, Except.bind, hnode]

end Folder

end Spelling
