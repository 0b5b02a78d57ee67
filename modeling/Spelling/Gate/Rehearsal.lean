import Spelling.Gate.Caller

/-!
# Gate rehearsals

A scripted run of a gate.  Named requests come from callers of their own and stay until they are
released; a trial comes from the script itself, which waits for it and gives back at once what it is
granted.  After each step everybody who can go on does, until only holders and sleepers are left.
-/

namespace Spelling.Gate

/-- A step of a script. -/
inductive Step where
  /-- A caller asks for permits, all of them if no number is given, and keeps them -/
  | request (name : String) (count? : Option Nat) (mayGiveUp : Bool)
  /-- The script asks for permits, with a time limit -/
  | trial (count : Nat)
  /-- The caller of some name gives its permits back -/
  | release (name : String)
  deriving Repr

/-- What came of a step. -/
inductive Outcome where
  | nothing
  | permit (count : Nat) (exclusive : Bool)
  | timeout (requested : Nat)
  | refused (message : String)
  deriving DecidableEq, Repr

/-- The gate after a step. -/
structure Report where
  outcome : Outcome
  /-- Permits held, in the order in which they were asked for -/
  held : List (String × Nat × Bool)
  available : Nat
  waiting : Nat
  deriving Repr

/-- A script under way. -/
structure Rehearsal where
  crowd : Crowd
  names : List String := []
  deriving Repr

namespace Rehearsal

/-- One step of every caller that can go on and does not hold permits. -/
def round (c : Crowd) : Crowd :=
  (List.range c.callers.length).foldl (fun c i =>
    if (c.callers[i]?.map Caller.isHolding).getD true then c else (c.step i .go).getD c) c

/-- Some rounds. -/
def rounds : Nat → Crowd → Crowd
  | 0, c => c
  | n + 1, c => rounds n (round c)

/-- Rounds until nobody can go on.  In each round somebody is granted permits, or falls asleep until
the next grant, or is a step nearer to either. -/
def settle (c : Crowd) : Crowd :=
  rounds (4 * c.callers.length + 4) c

/-- Steps of one caller until it is asleep, holds permits or is done. -/
def follow (i : Nat) : Nat → Crowd → Crowd
  | 0, c => c
  | n + 1, c =>
    if (c.callers[i]?.map Caller.isHolding).getD true then c
    else match c.step i .go with
      | some c => follow i n c
      | none => c

/-- A caller's last steps: it gives back what it holds, or gives up. -/
def finish (i : Nat) (c : Crowd) : Crowd :=
  match c.callers[i]? with
  | some (.holding _) => settle ((c.step i .go).getD c)
  | some (.waiting _ _) =>
    settle (((c.step i .rouse).bind (·.step i .giveUp)).getD c)
  | _ => c

/-- What a trial came to, once its caller took all steps it could. -/
def outcomeOf (g : Gate) : Caller → Outcome
  | .holding p => .permit p.count (p.isExclusive g)
  | .waiting r _ => .timeout r.count
  | .refused r => .refused (g.refusal r.count)
  | _ => .nothing

/-- What a request came to so far. -/
def refusalOf (g : Gate) : Caller → Outcome
  | .refused r => .refused (g.refusal r.count)
  | _ => .nothing

/-- The outcome read off a caller of a crowd. -/
def readOff (f : Gate → Caller → Outcome) (c : Crowd) (i : Nat) : Outcome :=
  ((c.callers[i]?).map (f c.gate)).getD .nothing

/-- The caller of a name that holds permits. -/
def holder? (r : Rehearsal) (name : String) : Option Nat :=
  (List.range r.names.length).find? fun i =>
    r.names[i]? == some name && (r.crowd.callers[i]?.map Caller.isHolding).getD false

/-- Takes a step of a script. -/
def step (r : Rehearsal) : Step → Outcome × Rehearsal
  | .request name count? mayGiveUp =>
    let i := r.crowd.callers.length
    let c := settle (r.crowd.arrive ⟨count?.getD r.crowd.gate.capacity, mayGiveUp⟩)
    (readOff refusalOf c i, ⟨c, r.names ++ [name]⟩)
  | .trial count =>
    let i := r.crowd.callers.length
    let c := follow i 4 (r.crowd.arrive ⟨count, true⟩)
    (readOff outcomeOf c i, ⟨finish i c, r.names ++ [""]⟩)
  | .release name =>
    match r.holder? name with
    | some i => (.nothing, { r with crowd := finish i r.crowd })
    | none => (.nothing, r)

/-- Permits held, in the order in which they were asked for. -/
def held (r : Rehearsal) : List (String × Nat × Bool) :=
  (r.names.zip r.crowd.callers).filterMap fun (name, caller) =>
    caller.permit?.map fun p => (name, p.count, p.isExclusive r.crowd.gate)

/-- The gate as it is reported after a step. -/
def report (r : Rehearsal) (outcome : Outcome) : Report :=
  ⟨outcome, r.held, r.crowd.gate.available, r.crowd.gate.waiting⟩

/-- Takes all steps of a script. -/
def run (r : Rehearsal) : List Step → List Report × Rehearsal
  | [] => ([], r)
  | s :: rest =>
    let (outcome, r) := r.step s
    let (reports, last) := r.run rest
    (r.report outcome :: reports, last)

/-- Everybody gives back their permits, the oldest grant first. -/
def releaseAll : Nat → Crowd → Crowd
  | 0, c => c
  | n + 1, c =>
    match c.callers.findIdx? Caller.isHolding with
    | some i => releaseAll n (finish i c)
    | none => c

/-- Permits available once everybody gave back theirs. -/
def availableAtEnd (r : Rehearsal) : Nat :=
  (releaseAll r.crowd.callers.length r.crowd).gate.available

/-- A script before its first step. -/
def ofCapacity (n : Nat) : Rehearsal :=
  ⟨⟨Gate.ofCapacity n, []⟩, []⟩

end Rehearsal

end Spelling.Gate
