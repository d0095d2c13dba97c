/-
The machine of gramcnf (vm.c) on the objects that the parser pushes. The stack
has 256 places: a push behind them is refused, which the parser does not see,
and the pop refuses a full stack as the push does.
-/
import Gramado.Gramcnf.Parser
import Gramado.Lib.Pieces
import Mathlib.Data.List.Induction

namespace Gramado.Gramcnf.Vm

open Gramado.Gramcnf.Parser
open Gramado.Lib.Loop
open Gramado.Lib.Pieces
open Function

def VM_STACK_COUNT_MAX : Int := 256

inductive VmState where
  | null
  | running
  | shuttingDown
  deriving DecidableEq

/-- `VMInfo` and `vm_stack`. -/
structure VmInfo where
  state : VmState
  pc : Int
  last : Int
  vmStack : Int → Option Object

def vmInitialize : VmInfo :=
  ⟨.null, 0, 0, fun _ => none⟩

/-- The object is never NULL: the parser exits without memory. -/
def push00 (vm : VmInfo) (obj : Object) (index : Int) : Int × VmInfo :=
  if index < 0 ∨ index ≥ VM_STACK_COUNT_MAX then
    (-1, vm)
  else
    (0, { vm with vmStack := update vm.vmStack index (some obj) })

def vmPush (vm : VmInfo) (obj : Object) : Int × VmInfo :=
  if vm.last < 0 ∨ vm.last ≥ VM_STACK_COUNT_MAX then
    (-1, vm)
  else
    push00 { vm with last := vm.last + 1 } obj vm.last

def get00 (vm : VmInfo) (index : Int) : Option Object :=
  if index < 0 ∨ index ≥ VM_STACK_COUNT_MAX then none else vm.vmStack index

def vmPop (vm : VmInfo) : Option Object × VmInfo :=
  if vm.last < 0 ∨ vm.last ≥ VM_STACK_COUNT_MAX then
    (none, vm)
  else
    let vm := if vm.last > 0 then { vm with last := vm.last - 1 } else vm
    (get00 vm vm.last, vm)

def vmGet (vm : VmInfo) : Option Object :=
  if vm.pc < 0 ∨ vm.pc ≥ VM_STACK_COUNT_MAX then none else get00 vm vm.pc

/-- The machine and the objects that it executed. -/
structure Run where
  vm : VmInfo
  executed : List Object

def Run.next (run : Run) : Run :=
  { run with vm := { run.vm with pc := run.vm.pc + 1 } }

/-- A pass of the loop of `vm_loop`. What the objects print is left out. -/
def loopPass (run : Run) : (Int × Run) ⊕ Run :=
  if run.vm.state = .shuttingDown then
    .inl (0, run)
  else
    match vmGet run.vm with
    | none => .inl (-1, run)
    | some o =>
        let run := { run with executed := run.executed ++ [o] }
        match o.opcode with
        | .opExit => .inr { run with vm := { run.vm with state := .shuttingDown } }.next
        | .opEof => .inl (0, run)
        | _ => .inr run.next

/-- The stack behind the parser, which does not look at what `vm_push` returns. -/
def load (objects : List Object) : VmInfo :=
  objects.foldl (fun vm o => (vmPush vm o).2) vmInitialize

/-- `vm_loop` when it begins. -/
def begin (objects : List Object) : Run :=
  ⟨{ load objects with state := .running }, []⟩

/-- The objects up to the first exit or end of the file. -/
def upToStop : List Object → List Object
  | [] => []
  | o :: rest => if o.stops then [o] else o :: upToStop rest

/-- `vm_loop` executes the objects in order, up to the first one that stops it,
    and returns 0; it gets none from behind the last one pushed. -/
structure Runs (objects : List Object) : Prop where
  executes : ∃ last, Gives loopPass (begin objects) (0, last) ∧ last.executed = upToStop objects
  inside : ∀ run, Leads loopPass (begin objects) run → run.vm.state = .running →
    run.vm.pc < run.vm.last

def Stored (objects : List Object) : Prop :=
  ∀ front o back, objects = front ++ o :: back → (vmPush (load front) o).1 = 0

/-- A pop behind the push gives the object, and leaves the stack as it was. -/
def PopsBack (vm : VmInfo) (o : Object) : Prop :=
  (vmPop (vmPush vm o).2).1 = some o ∧ (vmPop (vmPush vm o).2).2.last = vm.last ∧
    ∀ i, i < vm.last → (vmPop (vmPush vm o).2).2.vmStack i = vm.vmStack i

/-- A program that the parser accepts, with the objects of its statements. -/
structure Program (raw : Object) (dumpOutput : Bool) where
  tokens : List Token
  objects : List Object
  accepted : Accepts raw dumpOutput tokens objects

section Stack

variable {vm : VmInfo} {o : Object} {objects : List Object}

theorem vmPush_room (bottom : 0 ≤ vm.last) (room : vm.last < 256) : vmPush vm o =
    (0, { vm with last := vm.last + 1, vmStack := update vm.vmStack vm.last (some o) }) := by
  have inside : ¬(vm.last < 0 ∨ vm.last ≥ VM_STACK_COUNT_MAX) := by
    rw [VM_STACK_COUNT_MAX]
    omega
  rw [vmPush, if_neg inside, push00, if_neg inside]

theorem vmPush_full (full : vm.last < 0 ∨ 256 ≤ vm.last) : vmPush vm o = (-1, vm) := by
  have outside : vm.last < 0 ∨ vm.last ≥ VM_STACK_COUNT_MAX := full
  rw [vmPush, if_pos outside]

theorem vmPush_ok_iff : (vmPush vm o).1 = 0 ↔ 0 ≤ vm.last ∧ vm.last < 256 := by
  by_cases inside : 0 ≤ vm.last ∧ vm.last < 256
  · rw [vmPush_room inside.1 inside.2]
    exact iff_of_true rfl inside
  · rw [vmPush_full (by omega)]
    have refused : (-1 : Int) ≠ 0 := by decide
    exact iff_of_false refused inside

theorem load_eq (objects : List Object) :
    load objects = ⟨.null, 0, (min objects.length 256 : Nat),
      fun i => if 0 ≤ i ∧ i < 256 then objects[i.toNat]? else none⟩ := by
  induction objects using List.reverseRecOn with
  | nil =>
      simp only [load, List.foldl_nil, vmInitialize, List.length_nil, Nat.zero_min,
        Int.natCast_zero, List.getElem?_nil, ite_self]
  | append_singleton front o ih =>
      have snoc : load (front ++ [o]) = (vmPush (load front) o).2 := by
        rw [load, List.foldl_append]
        rfl
      rw [snoc, ih]
      rcases Nat.lt_or_ge front.length 256 with room | full
      · rw [vmPush_room (by simp) (by simp only; omega)]
        simp only [List.length_append, List.length_singleton, VmInfo.mk.injEq, true_and]
        refine ⟨by omega, ?_⟩
        funext i
        by_cases here : i = (min front.length 256 : Nat)
        · rw [here, update_self, if_pos (by omega), Int.toNat_natCast,
            Nat.min_eq_left (Nat.le_of_lt room), List.getElem?_concat_length]
        · rw [update_of_ne here]
          by_cases low : 0 ≤ i ∧ i < 256
          · rw [if_pos low, if_pos low]
            rcases Nat.lt_or_ge i.toNat front.length with before | behind
            · rw [List.getElem?_append_left before]
            · rw [List.getElem?_eq_none behind, List.getElem?_eq_none]
              rw [List.length_append, List.length_singleton]
              omega
          · rw [if_neg low, if_neg low]
      · rw [vmPush_full (by simp only; omega)]
        simp only [List.length_append, List.length_singleton, VmInfo.mk.injEq, true_and]
        refine ⟨by omega, ?_⟩
        funext i
        by_cases low : 0 ≤ i ∧ i < 256
        · rw [if_pos low, if_pos low, List.getElem?_append_left (by omega)]
        · rw [if_neg low, if_neg low]

theorem load_last : (load objects).last = (min objects.length 256 : Nat) := by
  rw [load_eq]

/-- No object is dropped if and only if the stack has a place for each. -/
theorem stored_iff : Stored objects ↔ objects.length ≤ 256 := by
  constructor
  · intro stored
    by_contra long
    have parts : objects = objects.take 256 ++ objects[256] :: objects.drop 257 := by
      rw [List.getElem_cons_drop, List.take_append_drop]
    have push := stored _ _ _ parts
    rw [vmPush_ok_iff, load_last, List.length_take] at push
    omega
  · rintro short front o back rfl
    rw [List.length_append, List.length_cons] at short
    rw [vmPush_ok_iff, load_last]
    omega

theorem popsBack_iff : ((vmPush vm o).1 = 0 → PopsBack vm o) ↔ vm.last ≠ 255 := by
  constructor
  · intro pops full
    have low : 0 ≤ vm.last := by omega
    have room : vm.last < 256 := by omega
    have pushed := @vmPush_room vm o low room
    have back := (pops (by rw [pushed])).1
    have refused : vm.last + 1 < 0 ∨ vm.last + 1 ≥ VM_STACK_COUNT_MAX := by
      rw [VM_STACK_COUNT_MAX]
      omega
    rw [pushed, vmPop, if_pos refused] at back
    cases back
  · intro room push
    rw [vmPush_ok_iff] at push
    have inside : ¬(vm.last + 1 < 0 ∨ vm.last + 1 ≥ VM_STACK_COUNT_MAX) := by
      rw [VM_STACK_COUNT_MAX]
      omega
    have back : ¬(vm.last < 0 ∨ vm.last ≥ VM_STACK_COUNT_MAX) := by
      rw [VM_STACK_COUNT_MAX]
      omega
    have more : vm.last + 1 > 0 := by omega
    rw [PopsBack, vmPush_room push.1 push.2, vmPop]
    simp only [if_neg inside, if_pos more, get00, Int.add_sub_cancel, if_neg back, update_self,
      true_and]
    intro i below
    exact update_of_ne (by omega) _ _

end Stack

section Loop

variable {objects front back : List Object} {o : Object} {k : Nat}

/-- The machine after `k` objects. -/
def Run.upTo (objects : List Object) (k : Nat) : Run :=
  ⟨{ load objects with state := .running, pc := k }, objects.take k⟩

theorem begin_eq : begin objects = Run.upTo objects 0 := by
  rw [begin, Run.upTo, load_eq]
  rfl

theorem vmGet_upTo (inside : k < 256) : vmGet (Run.upTo objects k).vm = objects[k]? := by
  have place : ¬((k : Int) < 0 ∨ (k : Int) ≥ VM_STACK_COUNT_MAX) := by
    rw [VM_STACK_COUNT_MAX]
    omega
  have low : 0 ≤ (k : Int) ∧ (k : Int) < 256 := by omega
  simp only [Run.upTo, load_eq, vmGet, get00, if_neg place, if_pos low, Int.toNat_natCast]

theorem vmGet_end : vmGet (Run.upTo objects 256).vm = none := rfl

theorem running_upTo : (Run.upTo objects k).vm.state ≠ .shuttingDown := by
  intro shut
  cases shut

theorem take_next (there : objects[k]? = some o) :
    objects.take k ++ [o] = objects.take (k + 1) := by
  rw [List.take_add_one, there]
  rfl

/-- An object that does not stop the machine takes it to the next one. -/
theorem pass_on (inside : k < 256) (there : objects[k]? = some o) (goes : o.stops = false) :
    loopPass (Run.upTo objects k) = .inr (Run.upTo objects (k + 1)) := by
  have next : (Run.next ⟨(Run.upTo objects k).vm, objects.take (k + 1)⟩) =
      Run.upTo objects (k + 1) := by
    simp only [Run.next, Run.upTo, Int.natCast_add, Int.natCast_one]
  rw [loopPass, if_neg running_upTo, vmGet_upTo inside, there]
  simp only
  have executed : (Run.upTo objects k).executed = objects.take k := rfl
  rw [executed, take_next there, next]
  rcases o with ⟨opcode, operand, buffer, value⟩
  cases opcode <;> first | rfl | cases goes

def Run.shut (objects : List Object) (k : Nat) : Run :=
  ⟨{ load objects with state := .shuttingDown, pc := k }, objects.take k⟩

theorem pass_exit (inside : k < 256) (there : objects[k]? = some o) (exits : o.opcode = .opExit) :
    loopPass (Run.upTo objects k) = .inr (Run.shut objects (k + 1)) := by
  rw [loopPass, if_neg running_upTo, vmGet_upTo inside, there]
  simp only [exits]
  have executed : (Run.upTo objects k).executed = objects.take k := rfl
  rw [executed, take_next there]
  rfl

theorem pass_eof (inside : k < 256) (there : objects[k]? = some o) (ends : o.opcode = .opEof) :
    loopPass (Run.upTo objects k) =
      .inl (0, ⟨(Run.upTo objects k).vm, objects.take (k + 1)⟩) := by
  rw [loopPass, if_neg running_upTo, vmGet_upTo inside, there]
  simp only [ends]
  have executed : (Run.upTo objects k).executed = objects.take k := rfl
  rw [executed, take_next there]

theorem upToStop_eq (goes : ∀ p ∈ front, p.stops = false) (stop : o.stops = true) :
    upToStop (front ++ o :: back) = front ++ [o] := by
  induction front with
  | nil => rw [List.nil_append, upToStop, if_pos stop, List.nil_append]
  | cons p front ih =>
      have first : ¬p.stops = true := by
        rw [goes p List.mem_cons_self]
        exact Bool.false_ne_true
      rw [List.cons_append, upToStop, if_neg first,
        ih fun q inside => goes q (List.mem_cons_of_mem p inside), List.cons_append]

/-- The first objects are executed one by one, as far as the stack goes. -/
theorem path_upTo (goes : ∀ p ∈ front, p.stops = false) (below : k < front.length)
    (inside : k < 256) :
    loopPass (Run.upTo (front ++ back) k) = .inr (Run.upTo (front ++ back) (k + 1)) := by
  have there : (front ++ back)[k]? = some front[k] := by
    rw [List.getElem?_append_left below, List.getElem?_eq_getElem below]
  exact pass_on inside there (goes _ (List.getElem_mem below))

/-- Where the first stop is behind the stack, the loop fails after 256 objects. -/
theorem stack_exhausted (goes : ∀ p ∈ front, p.stops = false) (long : 256 ≤ front.length) :
    Leads loopPass (begin (front ++ back)) (Run.upTo (front ++ back) 256) ∧
      Gives loopPass (begin (front ++ back)) (-1, Run.upTo (front ++ back) 256) := by
  have leads : Leads loopPass (begin (front ++ back)) (Run.upTo (front ++ back) 256) := by
    rw [begin_eq]
    exact ⟨256, after_path fun k inside => path_upTo goes (Nat.lt_of_lt_of_le inside long) inside⟩
  refine ⟨leads, leads.gives (gives_done ?_)⟩
  rw [loopPass, if_neg running_upTo, vmGet_end]

/-- The machine after `k` objects, where the last of `n` is an exit. -/
def Run.toExit (objects : List Object) (n k : Nat) : Run :=
  if k < n then Run.upTo objects k else Run.shut objects k

/-- Up to the first stop the loop gets no object from behind the last one. -/
theorem inside_upTo (below : k < objects.length) (inside : k < 256) :
    (Run.upTo objects k).vm.pc < (Run.upTo objects k).vm.last := by
  have pc : (Run.upTo objects k).vm.pc = k := rfl
  have top : (Run.upTo objects k).vm.last = (load objects).last := rfl
  rw [pc, top, load_last]
  omega

/-- Where the first stop is in the stack, the loop executes the objects up to it. -/
theorem runs_of_short (goes : ∀ p ∈ front, p.stops = false) (stop : o.stops = true)
    (short : front.length < 256) : Runs (front ++ o :: back) := by
  have there : (front ++ o :: back)[front.length]? = some o := by
    rw [List.getElem?_append_right (Nat.le_refl _), Nat.sub_self, List.getElem?_cons_zero]
  have whole : (front ++ o :: back).take (front.length + 1) = upToStop (front ++ o :: back) := by
    rw [← take_next there, List.take_left, upToStop_eq goes stop]
  have size : front.length < (front ++ o :: back).length := by
    rw [List.length_append, List.length_cons]
    omega
  have path : ∀ k, k < front.length → loopPass (Run.upTo (front ++ o :: back) k) =
      .inr (Run.upTo (front ++ o :: back) (k + 1)) :=
    fun k below => path_upTo goes below (Nat.lt_trans below short)
  -- At the end the loop is left at once, at an exit only with the next pass.
  by_cases ends : o.opcode = .opEof
  · have done := pass_eof short there ends
    have gives : Gives loopPass (begin (front ++ o :: back))
        (0, ⟨(Run.upTo (front ++ o :: back) front.length).vm,
          (front ++ o :: back).take (front.length + 1)⟩) := by
      rw [begin_eq]
      exact ⟨front.length + 1, after_path_done path done (Nat.lt_succ_self _)⟩
    refine ⟨⟨_, gives, whole⟩, fun run leads _ => ?_⟩
    rw [begin_eq] at leads
    rcases leads.on_path path done with ⟨k, inside, rfl⟩
    exact inside_upTo (Nat.lt_of_le_of_lt inside size) (Nat.lt_of_le_of_lt inside short)
  · have exits : o.opcode = .opExit := by
      rw [Object.stops, Bool.or_eq_true, decide_eq_true_eq, decide_eq_true_eq] at stop
      exact stop.resolve_right ends
    have start : begin (front ++ o :: back) =
        Run.toExit (front ++ o :: back) (front.length + 1) 0 := by
      rw [begin_eq, Run.toExit, if_pos (Nat.succ_pos _)]
    have steps : ∀ k, k < front.length + 1 →
        loopPass (Run.toExit (front ++ o :: back) (front.length + 1) k) =
          .inr (Run.toExit (front ++ o :: back) (front.length + 1) (k + 1)) := by
      intro k inside
      rw [Run.toExit, if_pos inside, Run.toExit]
      rcases Nat.lt_or_eq_of_le (Nat.le_of_lt_succ inside) with before | rfl
      · rw [if_pos (Nat.succ_lt_succ before)]
        exact path k before
      · rw [if_neg (Nat.lt_irrefl _)]
        exact pass_exit short there exits
    have done : loopPass (Run.toExit (front ++ o :: back) (front.length + 1) (front.length + 1)) =
        .inl (0, Run.shut (front ++ o :: back) (front.length + 1)) := by
      rw [Run.toExit, if_neg (Nat.lt_irrefl _)]
      rfl
    have gives : Gives loopPass (begin (front ++ o :: back))
        (0, Run.shut (front ++ o :: back) (front.length + 1)) := by
      rw [start]
      exact ⟨front.length + 2, after_path_done steps done (Nat.lt_succ_self _)⟩
    refine ⟨⟨_, gives, whole⟩, fun run leads running => ?_⟩
    rw [start] at leads
    rcases leads.on_path steps done with ⟨k, inside, rfl⟩
    by_cases before : k < front.length + 1
    · rw [Run.toExit, if_pos before]
      exact inside_upTo (by omega) (by omega)
    · rw [Run.toExit, if_neg before] at running
      cases running

/-- The loop runs the objects if and only if the first stop has a place on the stack. -/
theorem runs_iff (stops : ∃ o ∈ objects, o.stops = true) :
    Runs objects ↔ (upToStop objects).length ≤ 256 := by
  rcases first_separator Object.stops objects with goes | ⟨front, o, back, rfl, goes, stop⟩
  · rcases stops with ⟨o, inside, stop⟩
    rw [goes o inside] at stop
    cases stop
  · rw [upToStop_eq goes stop, List.length_append, List.length_singleton]
    constructor
    · intro runs
      by_contra long
      have leads := (@stack_exhausted _ (o :: back) goes (by omega)).1
      have below := runs.inside _ leads rfl
      have top : (Run.upTo (front ++ o :: back) 256).vm.last =
          (load (front ++ o :: back)).last := rfl
      have pc : (Run.upTo (front ++ o :: back) 256).vm.pc = 256 := rfl
      rw [top, pc, load_last] at below
      omega
    · exact fun short => runs_of_short goes stop short

end Loop

/-- For every program that the parser accepts, with the objects that its statements
    emit in their order: the machine executes them, up to the first exit or end of
    the file, and returns 0, if and only if this one is among the first 256; no
    object is dropped if and only if there are at most 256; and a pop undoes every
    push that succeeds but the 256th. -/
theorem gramcnf_runs_iff (raw : Object) (dumpOutput : Bool) (program : Program raw dumpOutput)
    (vm : VmInfo) (o : Object) :
    (∃ n, after (pass raw) n (.loop, start dumpOutput program.tokens) =
          .inl (.ok program.objects) ∧
        program.objects.map Object.opcode =
          emitted raw n (.loop, start dumpOutput program.tokens)) ∧
      (Runs program.objects ↔ (upToStop program.objects).length ≤ 256) ∧
      (Stored program.objects ↔ program.objects.length ≤ 256) ∧
      (((vmPush vm o).1 = 0 → PopsBack vm o) ↔ vm.last ≠ 255) := by
  rcases program.accepted.stops with ⟨front, last, same, stop⟩
  refine ⟨program.accepted.emitted, runs_iff ⟨last, ?_, stop⟩, stored_iff, popsBack_iff⟩
  rw [same]
  exact List.mem_append_right front List.mem_cons_self

/-- The statement `var x;`. -/
def declaration : List Token :=
  [⟨.type .tVar, some ['v', 'a', 'r']⟩, ⟨.identifier, some ['x']⟩, ⟨.separator, some [';']⟩]

def declared : Object :=
  ⟨.opVarType, .none, ['x'], 0⟩

/-- The program of this statement alone. -/
def declares : Program declared false where
  tokens := declaration
  objects := [declared, { declared with opcode := .opEof }]
  accepted := ⟨2, rfl⟩

theorem declaration_runs :
    Runs declares.objects ∧ Stored declares.objects ∧ PopsBack vmInitialize declared := by
  rcases gramcnf_runs_iff declared false declares vmInitialize declared with
    ⟨-, runs, stored, pops⟩
  refine ⟨runs.mpr (by decide), stored.mpr (by decide), pops.mpr ?_ rfl⟩
  exact (by decide : (0 : Int) ≠ 255)

/-- The push that fills the last place of the stack succeeds, and the pop behind it
    gives NULL. -/
theorem full_stack_gives_nothing :
    (vmPush (load (List.replicate 255 declared)) declared).1 = 0 ∧
      (vmPop (vmPush (load (List.replicate 255 declared)) declared).2).1 = none := by
  have last : (load (List.replicate 255 declared)).last = 255 := by
    rw [load_last, List.length_replicate]
    rfl
  have room : (0 : Int) ≤ 255 ∧ (255 : Int) < 256 := by decide
  rw [← last] at room
  rw [vmPush_room room.1 room.2]
  refine ⟨rfl, ?_⟩
  simp only [vmPop, last, VM_STACK_COUNT_MAX]
  rfl

end Gramado.Gramcnf.Vm
