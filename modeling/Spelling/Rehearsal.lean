import Spelling.Cache.Basic

/-!
# Rehearsals

A script makes calls on something that several callers share, and tells what each call came to.  It
makes most calls one at a time.  While readers are held it makes calls beside them:

    hold     some callers begin the same call one after another, each up to where it waits
    act      the script makes a call itself
    spawn    another caller begins a call and goes as far as it can
    at last  the held callers are let go one after another, and everybody ends

Time passes only where the script waits for a caller that gives up after a while, which it does for
its own calls and for the readers that it holds.  It takes as long as that caller waits, and whoever
has less time left gives up meanwhile.

A `Stage` is what a script needs to know of the thing it plays on.
-/

namespace Spelling.Rehearsal

/-- A call that was begun: the script has the answer already, or a caller of some number makes
it. -/
inductive Begun (Act Said : Type) where
  | answered (s : Said)
  | caller (n : Nat) (a : Act)

/-- What a script plays on.  `R` is its state, `Act` a call, `Said` what a call comes to. -/
structure Stage (R Act Said : Type) where
  /-- Makes a call when nobody is under way -/
  alone : R → Act → Said × R
  /-- Begins a call beside others, without taking its first step -/
  begin : R → Act → Begun Act Said × R
  /-- How many callers there are -/
  callers : R → Nat
  /-- More steps than one caller takes -/
  steps : R → Nat
  /-- One step of a caller that may go on -/
  step : Nat → R → Option R
  /-- What a caller came to, if it came to an end -/
  result? : R → Nat → Act → Option (Said × R)
  /-- Said of a caller that did not come to an end -/
  endless : Said
  /-- Lets a caller go on that was held -/
  release : Nat → R → R
  /-- Lets time pass until that of a caller is up, if it waits for something and gives up after a
  while -/
  outwait : Nat → R → R
  /-- Sends all callers away -/
  clear : R → R
  /-- What was done to dictionaries so far -/
  events : R → List Event

/-- A step of a script while readers are held. -/
inductive HeldStep (Act : Type) where
  | act (a : Act)
  | spawn (a : Act)

/-- A step of a script. -/
inductive Step (Act : Type) where
  | act (a : Act)
  | hold (readers : Nat) (reader : Act) (steps : List (HeldStep Act))

/-- What a step came to that was taken while readers were held. -/
inductive HeldSaid (Said : Type) where
  | said (s : Said)
  /-- Whether a spawned call has to wait -/
  | queued (waits : Bool)

/-- What a step of a script came to. -/
inductive StepSaid (Said : Type) where
  | one (s : Said)
  | held (readers : List Said) (inner : List (HeldSaid Said)) (spawned : List Said)

variable {R Act Said : Type}

/-- Takes steps while they are possible, up to a number. -/
def follow (step : R → Option R) : Nat → R → R
  | 0, r => r
  | n + 1, r =>
    match step r with
    | some r => follow step n r
    | none => r

namespace Stage

variable (st : Stage R Act Said)

/-- A caller goes as far as it can. -/
def go (n : Nat) (r : R) : R := follow (st.step n) (st.steps r) r

/-- Each caller in turn goes as far as it can. -/
def round (r : R) : R := (List.range (st.callers r)).foldl (fun r n => st.go n r) r

/-- Everybody goes as far as they can.  A caller that could not go on in a round may have waited for
one that comes later in it, so there is a round for each of them and one more. -/
def settle (r : R) : R := Nat.repeat st.round (st.callers r + 1) r

/-- Begins a call, whose caller goes as far as it can. -/
def start (r : R) (a : Act) : Begun Act Said × R :=
  let (c, r) := st.begin r a
  match c with
  | .answered s => (.answered s, r)
  | .caller n a => (.caller n a, st.go n r)

/-- What a call that was begun came to, if it came to an end. -/
def ended? (r : R) : Begun Act Said → Option (Said × R)
  | .answered s => some (s, r)
  | .caller n a => st.result? r n a

/-- What a call that was begun came to. -/
def conclude (r : R) (c : Begun Act Said) : Said × R :=
  (st.ended? r c).getD (st.endless, r)

/-- What some calls that were begun came to. -/
def concludeAll (r : R) : List (Begun Act Said) → List Said × R
  | [] => ([], r)
  | c :: cs =>
    let (s, r) := st.conclude r c
    let (ss, r) := concludeAll r cs
    (s :: ss, r)

/-- Waits for a call that was begun, until it comes to an end or is held. -/
def await (r : R) (c : Begun Act Said) : R :=
  match c, st.ended? r c with
  | .caller n _, none => st.settle (st.outwait n r)
  | _, _ => r

/-- Begins the same call some times, and waits for it each time. -/
def startReaders (a : Act) : Nat → R → List (Begun Act Said) × R
  | 0, r => ([], r)
  | n + 1, r =>
    let (c, r) := st.start r a
    let (cs, r) := startReaders a n (st.await r c)
    (c :: cs, r)

/-- The script makes a call itself beside others, and waits for it. -/
def actBeside (r : R) (a : Act) : Said × R :=
  let (c, r) := st.start r a
  st.conclude (st.await r c) c

/-- Takes the steps of a script while readers are held.  Returns what they came to and the calls
that were spawned. -/
def heldSteps : List (HeldStep Act) → R → List (HeldSaid Said) × List (Begun Act Said) × R
  | [], r => ([], [], r)
  | .act a :: rest, r =>
    let (s, r) := st.actBeside r a
    let (ss, cs, r) := heldSteps rest (st.settle r)
    (.said s :: ss, cs, r)
  | .spawn a :: rest, r =>
    let (c, r) := st.start r a
    let waits := (st.ended? r c).isNone
    let (ss, cs, r) := heldSteps rest r
    (.queued waits :: ss, c :: cs, r)

/-- Lets a held caller go.  It goes on first, and then everybody else. -/
def letGo (r : R) : Begun Act Said → R
  | .answered _ => r
  | .caller n _ => st.settle (st.go n (st.release n r))

/-- Takes a step of a script. -/
def play (r : R) : Step Act → StepSaid Said × R
  | .act a =>
    let (s, r) := st.alone r a
    (.one s, r)
  | .hold n reader steps =>
    let (held, r) := st.startReaders reader n r
    let (inner, spawned, r) := st.heldSteps steps r
    let r := spawned.foldl st.letGo (held.foldl st.letGo r)
    let (readers, r) := st.concludeAll r held
    let (spawned, r) := st.concludeAll r spawned
    (.held readers inner spawned, st.clear r)

/-- Events in the order in which a step tells them.  Callers that interleave fix the order of the
events of a locale only. -/
def told : Step Act → List Event → List Event
  | .act _, events => events
  | .hold _ _ _, events => Event.byLocale events

/-- Takes the steps of a script.  Each comes with what was done to dictionaries meanwhile. -/
def run (r : R) : List (Step Act) → List (StepSaid Said × List Event) × R
  | [] => ([], r)
  | s :: rest =>
    let (said, next) := st.play r s
    let events := told s ((st.events next).drop (st.events r).length)
    let (others, last) := run next rest
    ((said, events) :: others, last)

end Stage

end Spelling.Rehearsal
