import Omicron.Lib.BinarySearch
import Omicron.Lib.ExceptRun

/-!
# Update engine: what an event buffer keeps about one step

`update_engine::buffer::EventBufferStepData` and `StepStatus`: for each step of each execution
an `EventBuffer` has seen, its high-priority events, its status, and the last root event index
that changed it. `EventStore` applies seven operations to it as events arrive
(`add_high_priority_step_event`, `add_low_priority_step_event`, `set_progress` and the four
`mark_*`); this file is the step data as a machine over those operations, in any order.

* `EventBufferStepData.Inv` -- the source's own invariants, on every state a run from a new step
  reaches (`run_new_inv`): high-priority events sorted by leaf event index with no leaf twice, a
  running step's low-priority events likewise and at most `max_low_priority` of them, and no
  stored event newer than the last root event index;
* `run_keeps` -- over any run no high-priority event is lost or moved, the last root event index
  never decreases, a running step never goes back to not started, and completed, failed and
  will-not-be-run are final, an aborted step keeping its reason;
* `run_highPriority_first` -- over any run, the high-priority event stored for a leaf is the
  first event of that leaf the step was given: later ones are duplicates, dropped.

An event is read only through its root event index and `leaf_event_index()`, the index of the
innermost event a `Nested` event carries. Completion and failure reasons, progress events and the
contents of events are stored and never inspected: they are the types `C`, `F`, `P` and `B`. The
build is a release build: `update_root_event_index`'s `debug_assert!` is not there.
-/

namespace Omicron.UpdateEngine

/-! ## 1. Events and statuses -/

/-- A `StepEvent`: its event index, and for `StepEventKind::Nested` the event of the nested
    execution it carries. The rest of an event is `body`. -/
inductive StepEvent (B : Type) where
  | leaf (eventIndex : Nat) (body : B)
  | nested (eventIndex : Nat) (body : B) (event : StepEvent B)
  deriving DecidableEq, Repr

namespace StepEvent

variable {B : Type}

/-- `event_index`. -/
def eventIndex : StepEvent B → Nat
  | .leaf eventIndex _ | .nested eventIndex _ _ => eventIndex

/-- `StepEvent::leaf_event_index`: a nested event's is the one of the event it carries. -/
def leafEventIndex : StepEvent B → Nat
  | .leaf eventIndex _ => eventIndex
  | .nested _ _ event => event.leafEventIndex

end StepEvent

/-- `AbortReason`. -/
inductive AbortReason (K A : Type) where
  | stepAborted (info : A)
  | parentAborted (parentStep : K) (parentInfo : A)
  deriving DecidableEq, Repr

/-- `WillNotBeRunReason`. -/
inductive WillNotBeRunReason (K : Type) where
  | previousStepFailed (step : K)
  | parentStepFailed (step : K)
  | previousStepAborted (step : K)
  | parentAborted (step : K)
  deriving DecidableEq, Repr

/-- `StepStatus`. -/
inductive StepStatus (B P C F K A : Type) where
  | notStarted
  | running (lowPriority : List (StepEvent B)) (progressEvent : P)
  | completed (reason : C)
  | failed (reason : F)
  | aborted (reason : AbortReason K A) (lastProgress : Option P)
  | willNotBeRun (reason : WillNotBeRunReason K)
  deriving DecidableEq, Repr

/-- `EventBufferStepData`, the fields its operations read and write. -/
structure EventBufferStepData (B P C F K A : Type) where
  highPriority : List (StepEvent B)
  stepStatus : StepStatus B P C F K A
  lastRootEventIndex : Nat
  deriving DecidableEq, Repr

/-! ## 2. The operations -/

/-- The loop of `add_low_priority_step_event` that ejects the oldest events while more than
    `maxLowPriority` remain. -/
def popFrontWhileOver {E : Type} (maxLowPriority : Nat) : List E → List E
  | [] => []
  | e :: es => if (e :: es).length > maxLowPriority then popFrontWhileOver maxLowPriority es
    else e :: es

namespace EventBufferStepData

variable {B P C F K A : Type}

/-- `EventBufferStepData::new`: no event, not started. -/
def new (rootEventIndex : Nat) : EventBufferStepData B P C F K A :=
  ⟨[], .notStarted, rootEventIndex⟩

/-- `update_root_event_index`: the later of the two. -/
def updateRootEventIndex (d : EventBufferStepData B P C F K A) (rootEventIndex : Nat) :
    EventBufferStepData B P C F K A :=
  { d with lastRootEventIndex := max d.lastRootEventIndex rootEventIndex }

/-- The comparison `binary_search_by` makes: a stored event's leaf event index against the new
    event's. -/
def byLeaf (rootEvent : StepEvent B) (probe : StepEvent B) : Ordering :=
  compare probe.leafEventIndex rootEvent.leafEventIndex

/-- `add_high_priority_step_event`: a new leaf goes in its place in leaf order, an event of a
    leaf already there is a duplicate. -/
def addHighPriorityStepEvent (d : EventBufferStepData B P C F K A) (rootEvent : StepEvent B) :
    EventBufferStepData B P C F K A :=
  match binarySearchBy d.highPriority (byLeaf rootEvent) with
  | .ok _ => d
  | .error index =>
    { d.updateRootEventIndex rootEvent.eventIndex with
      highPriority := d.highPriority.insertIdx index rootEvent }

/-- `add_low_priority_step_event`: only a running step keeps low-priority events, a new leaf in
    its place, and no more than `maxLowPriority` of them; one not started is `unreachable!()`. -/
def addLowPriorityStepEvent (d : EventBufferStepData B P C F K A) (rootEvent : StepEvent B)
    (maxLowPriority : Nat) : Option (EventBufferStepData B P C F K A) :=
  match d.stepStatus with
  | .notStarted => none
  | .running lowPriority progressEvent =>
    match binarySearchBy lowPriority (byLeaf rootEvent) with
    | .ok _ =>
      -- a duplicate; the ejection loop runs all the same
      let lowPriority := popFrontWhileOver maxLowPriority lowPriority
      some { d with stepStatus := .running lowPriority progressEvent }
    | .error index =>
      let lowPriority := popFrontWhileOver maxLowPriority (lowPriority.insertIdx index rootEvent)
      some ({ d with stepStatus := .running lowPriority progressEvent }.updateRootEventIndex
        rootEvent.eventIndex)
  | _ => some d

/-- `mark_completed`: a step not yet terminated completes. -/
def markCompleted (d : EventBufferStepData B P C F K A) (reason : C) (rootEventIndex : Nat) :
    EventBufferStepData B P C F K A :=
  match d.stepStatus with
  | .notStarted | .running _ _ =>
    { d with stepStatus := .completed reason }.updateRootEventIndex rootEventIndex
  | _ => d

/-- `mark_failed`: a step not yet terminated fails. -/
def markFailed (d : EventBufferStepData B P C F K A) (reason : F) (rootEventIndex : Nat) :
    EventBufferStepData B P C F K A :=
  match d.stepStatus with
  | .notStarted | .running _ _ =>
    { d with stepStatus := .failed reason }.updateRootEventIndex rootEventIndex
  | _ => d

/-- `mark_aborted`: a step not started will not be run when its parent aborted, and is aborted
    with no progress when it aborted itself; a running step is aborted with its last progress. -/
def markAborted (d : EventBufferStepData B P C F K A) (reason : AbortReason K A)
    (rootEventIndex : Nat) : EventBufferStepData B P C F K A :=
  match d.stepStatus with
  | .notStarted =>
    let stepStatus : StepStatus B P C F K A := match reason with
      | .parentAborted parentStep _ => .willNotBeRun (.parentAborted parentStep)
      | .stepAborted info => .aborted (.stepAborted info) none
    { d with stepStatus := stepStatus }.updateRootEventIndex rootEventIndex
  | .running _ progressEvent =>
    { d with stepStatus := .aborted reason (some progressEvent) }.updateRootEventIndex
      rootEventIndex
  | _ => d

/-- `mark_will_not_be_run`: only a step not started; a running one ignores it. -/
def markWillNotBeRun (d : EventBufferStepData B P C F K A) (reason : WillNotBeRunReason K)
    (rootEventIndex : Nat) : EventBufferStepData B P C F K A :=
  match d.stepStatus with
  | .notStarted => { d with stepStatus := .willNotBeRun reason }.updateRootEventIndex rootEventIndex
  | _ => d

/-- `set_progress`: a step not started starts running; a running or aborted one keeps the
    progress as its last. -/
def setProgress (d : EventBufferStepData B P C F K A) (currentProgress : P) :
    EventBufferStepData B P C F K A :=
  match d.stepStatus with
  | .notStarted => { d with stepStatus := .running [] currentProgress }
  | .running lowPriority _ => { d with stepStatus := .running lowPriority currentProgress }
  | .aborted reason _ => { d with stepStatus := .aborted reason (some currentProgress) }
  | _ => d

end EventBufferStepData

/-- What `EventStore` does to one step's data. -/
inductive Op (B P C F K A : Type) where
  | addHighPriority (event : StepEvent B)
  | addLowPriority (event : StepEvent B)
  | setProgress (progress : P)
  | markCompleted (reason : C) (rootEventIndex : Nat)
  | markFailed (reason : F) (rootEventIndex : Nat)
  | markAborted (reason : AbortReason K A) (rootEventIndex : Nat)
  | markWillNotBeRun (reason : WillNotBeRunReason K) (rootEventIndex : Nat)

namespace EventBufferStepData

variable {B P C F K A : Type}

/-- One operation, in a buffer whose `max_low_priority` is `maxLowPriority`; `none` is the panic
    of a low-priority event for a step not started. -/
def step (maxLowPriority : Nat) (d : EventBufferStepData B P C F K A) :
    Op B P C F K A → Option (EventBufferStepData B P C F K A)
  | .addHighPriority event => some (d.addHighPriorityStepEvent event)
  | .addLowPriority event => d.addLowPriorityStepEvent event maxLowPriority
  | .setProgress progress => some (d.setProgress progress)
  | .markCompleted reason rootEventIndex => some (d.markCompleted reason rootEventIndex)
  | .markFailed reason rootEventIndex => some (d.markFailed reason rootEventIndex)
  | .markAborted reason rootEventIndex => some (d.markAborted reason rootEventIndex)
  | .markWillNotBeRun reason rootEventIndex => some (d.markWillNotBeRun reason rootEventIndex)

/-- Operations one after the other, `none` from the first panic on. -/
def run (maxLowPriority : Nat) (d : EventBufferStepData B P C F K A) (ops : List (Op B P C F K A)) :
    Option (EventBufferStepData B P C F K A) :=
  ops.foldlM (fun d op => d.step maxLowPriority op) d

@[simp] theorem updateRootEventIndex_highPriority (d : EventBufferStepData B P C F K A) (i : Nat) :
    (d.updateRootEventIndex i).highPriority = d.highPriority := rfl

@[simp] theorem updateRootEventIndex_stepStatus (d : EventBufferStepData B P C F K A) (i : Nat) :
    (d.updateRootEventIndex i).stepStatus = d.stepStatus := rfl

@[simp] theorem updateRootEventIndex_lastRootEventIndex (d : EventBufferStepData B P C F K A)
    (i : Nat) : (d.updateRootEventIndex i).lastRootEventIndex = max d.lastRootEventIndex i := rfl

theorem run_cons (maxLowPriority : Nat) (d : EventBufferStepData B P C F K A) (op : Op B P C F K A)
    (ops : List (Op B P C F K A)) :
    d.run maxLowPriority (op :: ops) =
      (d.step maxLowPriority op).bind fun d' => d'.run maxLowPriority ops := rfl

end EventBufferStepData

/-! ## 3. The invariant -/

namespace StepStatus

variable {B P C F K A : Type}

/-- `StepStatus::low_priority`: a running step's low-priority events, none otherwise. -/
def lowPriority : StepStatus B P C F K A → List (StepEvent B)
  | .running lowPriority _ => lowPriority
  | _ => []

end StepStatus

/-- Leaf event indices strictly increasing: in leaf order, with no leaf twice. -/
def LeafSorted {B : Type} (events : List (StepEvent B)) : Prop :=
  (events.map StepEvent.leafEventIndex).Pairwise (· < ·)

/-- No event newer than the root event index `i`. -/
def NotAfter {B : Type} (events : List (StepEvent B)) (i : Nat) : Prop :=
  ∀ e ∈ events, e.eventIndex ≤ i

theorem NotAfter.mono {B : Type} {events : List (StepEvent B)} {i j : Nat} (h : NotAfter events i)
    (hij : i ≤ j) : NotAfter events j :=
  fun e he => Nat.le_trans (h e he) hij

theorem NotAfter.sublist {B : Type} {events events' : List (StepEvent B)} {i : Nat}
    (h : NotAfter events i) (hsub : List.Sublist events' events) : NotAfter events' i :=
  fun e he => h e (hsub.subset he)

theorem LeafSorted.sublist {B : Type} {events events' : List (StepEvent B)} (h : LeafSorted events)
    (hsub : List.Sublist events' events) : LeafSorted events' :=
  List.Pairwise.sublist (hsub.map _) h

/-- The loop ejects from the front: what is left is a suffix of at most `maxLowPriority`. -/
theorem popFrontWhileOver_eq_drop {E : Type} (maxLowPriority : Nat) :
    ∀ l : List E, popFrontWhileOver maxLowPriority l = l.drop (l.length - maxLowPriority)
  | [] => by simp [popFrontWhileOver]
  | e :: es => by
    rw [popFrontWhileOver]
    split
    · next hover =>
      rw [popFrontWhileOver_eq_drop maxLowPriority es, List.length_cons,
        show es.length + 1 - maxLowPriority = es.length - maxLowPriority + 1 by
          simp only [List.length_cons] at hover; omega, List.drop_succ_cons]
    · next hle =>
      rw [show (e :: es).length - maxLowPriority = 0 by omega, List.drop_zero]

theorem length_popFrontWhileOver_le {E : Type} (maxLowPriority : Nat) (l : List E) :
    (popFrontWhileOver maxLowPriority l).length ≤ maxLowPriority := by
  rw [popFrontWhileOver_eq_drop, List.length_drop]
  omega

theorem popFrontWhileOver_sublist {E : Type} (maxLowPriority : Nat) (l : List E) :
    List.Sublist (popFrontWhileOver maxLowPriority l) l := by
  rw [popFrontWhileOver_eq_drop]
  exact List.drop_sublist _ _

/-- Inserting an event at the `Err` of the search by its leaf keeps a list leaf-sorted, and no
    event in it newer than the later of the two indices. -/
theorem insertIdx_of_error {B : Type} {events : List (StepEvent B)} {e : StepEvent B} {i j : Nat}
    (hs : LeafSorted events) (hn : NotAfter events j)
    (h : binarySearchBy events (EventBufferStepData.byLeaf e) = .error i) :
    LeafSorted (events.insertIdx i e) ∧ NotAfter (events.insertIdx i e) (max j e.eventIndex) := by
  refine ⟨pairwise_insertIdx_of_error hs h, fun e' he' => ?_⟩
  rcases (List.mem_insertIdx (binarySearchBy_error_le h)).mp he' with rfl | he'
  · exact Nat.le_max_right _ _
  · exact Nat.le_trans (hn e' he') (Nat.le_max_left _ _)

namespace EventBufferStepData

variable {B P C F K A : Type}

/-- The invariants of the source: high-priority events "stored in order sorted by leaf event
    index", a running step's low-priority ones "stored in sorted order" and at most
    `max_low_priority`, and every stored event no newer than the last root event index. -/
structure Inv (maxLowPriority : Nat) (d : EventBufferStepData B P C F K A) : Prop where
  highPriority_sorted : LeafSorted d.highPriority
  highPriority_notAfter : NotAfter d.highPriority d.lastRootEventIndex
  lowPriority_sorted : LeafSorted d.stepStatus.lowPriority
  lowPriority_length : d.stepStatus.lowPriority.length ≤ maxLowPriority
  lowPriority_notAfter : NotAfter d.stepStatus.lowPriority d.lastRootEventIndex

theorem inv_new (maxLowPriority rootEventIndex : Nat) :
    Inv maxLowPriority (new rootEventIndex : EventBufferStepData B P C F K A) :=
  ⟨List.Pairwise.nil, (fun _ h => nomatch h), List.Pairwise.nil, Nat.zero_le _,
    (fun _ h => nomatch h)⟩

/-- A status with no low-priority events keeps the invariant, with a later root event index. -/
theorem Inv.settle {m : Nat} {d : EventBufferStepData B P C F K A} {s : StepStatus B P C F K A}
    {i : Nat} (hinv : Inv m d) (hs : s.lowPriority = []) (hi : d.lastRootEventIndex ≤ i) :
    Inv m ({ d with stepStatus := s, lastRootEventIndex := i } : EventBufferStepData B P C F K A) :=
  ⟨hinv.highPriority_sorted, hinv.highPriority_notAfter.mono hi, by simp [hs, LeafSorted],
    by simp [hs], by simp [hs, NotAfter]⟩

/-- Low-priority events that keep the invariant of the list, with a later root event index. -/
theorem Inv.setLowPriority {m : Nat} {d : EventBufferStepData B P C F K A}
    {low : List (StepEvent B)} {progress : P} {i : Nat} (hinv : Inv m d)
    (hi : d.lastRootEventIndex ≤ i) (hsorted : LeafSorted low) (hlen : low.length ≤ m)
    (hnot : NotAfter low i) :
    Inv m ({ d with stepStatus := .running low progress, lastRootEventIndex := i } :
      EventBufferStepData B P C F K A) :=
  ⟨hinv.highPriority_sorted, hinv.highPriority_notAfter.mono hi, hsorted, hlen, hnot⟩

/-- The ejection loop brings any sorted list back under `max_low_priority`. -/
theorem Inv.setPopped {m : Nat} {d : EventBufferStepData B P C F K A} {low : List (StepEvent B)}
    {progress : P} {i : Nat} (hinv : Inv m d) (hi : d.lastRootEventIndex ≤ i)
    (hsorted : LeafSorted low) (hnot : NotAfter low i) :
    Inv m ({ d with
      stepStatus := .running (popFrontWhileOver m low) progress, lastRootEventIndex := i } :
      EventBufferStepData B P C F K A) :=
  hinv.setLowPriority hi (hsorted.sublist (popFrontWhileOver_sublist _ _))
    (length_popFrontWhileOver_le _ _) (hnot.sublist (popFrontWhileOver_sublist _ _))

/-- What the invariant says of a running step's low-priority events. -/
theorem Inv.running {m : Nat} {d : EventBufferStepData B P C F K A} {low : List (StepEvent B)}
    {progress : P} (hinv : Inv m d) (hstatus : d.stepStatus = .running low progress) :
    LeafSorted low ∧ low.length ≤ m ∧ NotAfter low d.lastRootEventIndex := by
  have hlow : d.stepStatus.lowPriority = low := by rw [hstatus]; rfl
  rw [← hlow]
  exact ⟨hinv.lowPriority_sorted, hinv.lowPriority_length, hinv.lowPriority_notAfter⟩

theorem Inv.addHighPriorityStepEvent {m : Nat} {d : EventBufferStepData B P C F K A}
    (hinv : Inv m d) (e : StepEvent B) : Inv m (d.addHighPriorityStepEvent e) := by
  unfold EventBufferStepData.addHighPriorityStepEvent
  split
  · exact hinv
  · next index hsearch =>
    obtain ⟨hsorted, hnot⟩ := insertIdx_of_error hinv.highPriority_sorted
      hinv.highPriority_notAfter hsearch
    exact ⟨hsorted, hnot, hinv.lowPriority_sorted, hinv.lowPriority_length,
      hinv.lowPriority_notAfter.mono (Nat.le_max_left _ _)⟩

theorem Inv.addLowPriorityStepEvent {m : Nat} {d d' : EventBufferStepData B P C F K A}
    (hinv : Inv m d) {e : StepEvent B} (h : d.addLowPriorityStepEvent e m = some d') :
    Inv m d' := by
  unfold EventBufferStepData.addLowPriorityStepEvent at h
  split at h
  · cases h
  · next low progress hstatus =>
    obtain ⟨hsorted, -, hnot⟩ := hinv.running hstatus
    split at h
    · cases h
      exact hinv.setPopped (Nat.le_refl _) hsorted hnot
    · next index hsearch =>
      cases h
      obtain ⟨hsorted', hnot'⟩ := insertIdx_of_error hsorted hnot hsearch
      exact hinv.setPopped (Nat.le_max_left _ _) hsorted' hnot'
  · cases h
    exact hinv

theorem Inv.setProgress {m : Nat} {d : EventBufferStepData B P C F K A} (hinv : Inv m d)
    (progress : P) : Inv m (d.setProgress progress) := by
  unfold EventBufferStepData.setProgress
  split
  · exact hinv.setLowPriority (Nat.le_refl _) List.Pairwise.nil (Nat.zero_le _)
      (fun _ h => nomatch h)
  · next low _ hstatus =>
    obtain ⟨hsorted, hlen, hnot⟩ := hinv.running hstatus
    exact hinv.setLowPriority (Nat.le_refl _) hsorted hlen hnot
  · exact hinv.settle rfl (Nat.le_refl _)
  · exact hinv

end EventBufferStepData

/-! ## 4. What a run keeps -/

namespace StepStatus

variable {B P C F K A : Type}

/-- A status a step that ran can be in: it was not started and was not skipped. -/
def Started : StepStatus B P C F K A → Prop
  | .notStarted | .willNotBeRun _ => False
  | _ => True

/-- How a status may change: a step not started may become anything; a running step has
    started for good; completed, failed and will-not-be-run are final, and an aborted step keeps
    its reason, only its last progress may change. -/
def Keeps : StepStatus B P C F K A → StepStatus B P C F K A → Prop
  | .notStarted, _ => True
  | .running _ _, s' => s'.Started
  | .completed reason, s' => s' = .completed reason
  | .failed reason, s' => s' = .failed reason
  | .aborted reason _, s' => ∃ lastProgress, s' = .aborted reason lastProgress
  | .willNotBeRun reason, s' => s' = .willNotBeRun reason

theorem Keeps.refl : ∀ s : StepStatus B P C F K A, s.Keeps s
  | .notStarted | .running _ _ => trivial
  | .completed _ | .failed _ | .willNotBeRun _ => rfl
  | .aborted _ lastProgress => ⟨lastProgress, rfl⟩

/-- A status a started step may move to has started too. -/
theorem Started.keeps {s s' : StepStatus B P C F K A} (hs : s.Started) (h : s.Keeps s') :
    s'.Started := by
  cases s with
  | notStarted | willNotBeRun _ => exact hs.elim
  | running => exact h
  | completed | failed => subst h; trivial
  | aborted => obtain ⟨_, rfl⟩ := h; trivial

theorem Keeps.trans {s₁ s₂ s₃ : StepStatus B P C F K A} (h₁₂ : s₁.Keeps s₂) (h₂₃ : s₂.Keeps s₃) :
    s₁.Keeps s₃ := by
  cases s₁ with
  | notStarted => trivial
  | running => exact Started.keeps h₁₂ h₂₃
  | completed | failed | willNotBeRun => subst h₁₂; exact h₂₃
  | aborted => obtain ⟨_, rfl⟩ := h₁₂; exact h₂₃

end StepStatus

namespace EventBufferStepData

variable {B P C F K A : Type}

/-- What a later state keeps of an earlier one: its high-priority events, in their order, a root
    event index no smaller, and a status `StepStatus.Keeps` allows. -/
structure Keeps (d d' : EventBufferStepData B P C F K A) : Prop where
  highPriority_sublist : List.Sublist d.highPriority d'.highPriority
  lastRootEventIndex_le : d.lastRootEventIndex ≤ d'.lastRootEventIndex
  stepStatus_keeps : d.stepStatus.Keeps d'.stepStatus

theorem Keeps.refl (d : EventBufferStepData B P C F K A) : Keeps d d :=
  ⟨List.Sublist.refl _, Nat.le_refl _, StepStatus.Keeps.refl _⟩

theorem Keeps.trans {d₁ d₂ d₃ : EventBufferStepData B P C F K A} (h₁₂ : Keeps d₁ d₂)
    (h₂₃ : Keeps d₂ d₃) : Keeps d₁ d₃ :=
  ⟨h₁₂.highPriority_sublist.trans h₂₃.highPriority_sublist,
    Nat.le_trans h₁₂.lastRootEventIndex_le h₂₃.lastRootEventIndex_le,
    h₁₂.stepStatus_keeps.trans h₂₃.stepStatus_keeps⟩

/-- What a `mark_*` can do: nothing, or set a status with no low-priority events that
    `StepStatus.Keeps` allows, at the later root event index. -/
def Marks (d d' : EventBufferStepData B P C F K A) : Prop :=
  d' = d ∨ ∃ (s : StepStatus B P C F K A) (i : Nat), s.lowPriority = [] ∧ d.stepStatus.Keeps s ∧
    d' = { d with stepStatus := s }.updateRootEventIndex i

theorem Marks.inv {m : Nat} {d d' : EventBufferStepData B P C F K A} (hmarks : Marks d d')
    (hinv : Inv m d) : Inv m d' := by
  rcases hmarks with rfl | ⟨s, i, hs, -, rfl⟩
  · exact hinv
  · exact hinv.settle hs (Nat.le_max_left _ _)

theorem Marks.keeps {d d' : EventBufferStepData B P C F K A} (hmarks : Marks d d') :
    Keeps d d' := by
  rcases hmarks with rfl | ⟨s, i, -, hkeeps, rfl⟩
  · exact Keeps.refl _
  · exact ⟨List.Sublist.refl _, Nat.le_max_left _ _, hkeeps⟩

theorem Marks.highPriority_eq {d d' : EventBufferStepData B P C F K A} (hmarks : Marks d d') :
    d'.highPriority = d.highPriority := by
  rcases hmarks with rfl | ⟨s, i, -, -, rfl⟩ <;> rfl

/-- The status a mark sets, for a step not started or running. -/
theorem marks_of_status {d : EventBufferStepData B P C F K A} {s : StepStatus B P C F K A}
    (i : Nat) (hs : s.lowPriority = []) (hstatus : d.stepStatus.Keeps s) :
    Marks d ({ d with stepStatus := s }.updateRootEventIndex i) :=
  .inr ⟨s, i, hs, hstatus, rfl⟩

theorem markCompleted_marks (d : EventBufferStepData B P C F K A) (reason : C) (i : Nat) :
    Marks d (d.markCompleted reason i) := by
  unfold markCompleted
  split
  · next hstatus => exact marks_of_status i rfl (by rw [hstatus]; trivial)
  · next hstatus => exact marks_of_status i rfl (by rw [hstatus]; trivial)
  · exact .inl rfl

theorem markFailed_marks (d : EventBufferStepData B P C F K A) (reason : F) (i : Nat) :
    Marks d (d.markFailed reason i) := by
  unfold markFailed
  split
  · next hstatus => exact marks_of_status i rfl (by rw [hstatus]; trivial)
  · next hstatus => exact marks_of_status i rfl (by rw [hstatus]; trivial)
  · exact .inl rfl

theorem markAborted_marks (d : EventBufferStepData B P C F K A) (reason : AbortReason K A)
    (i : Nat) : Marks d (d.markAborted reason i) := by
  unfold markAborted
  split
  · -- not started: will not be run if the parent aborted, aborted with no progress otherwise
    next hstatus => cases reason <;> exact marks_of_status i rfl (by rw [hstatus]; trivial)
  · next hstatus => exact marks_of_status i rfl (by rw [hstatus]; trivial)
  · exact .inl rfl

theorem markWillNotBeRun_marks (d : EventBufferStepData B P C F K A)
    (reason : WillNotBeRunReason K) (i : Nat) : Marks d (d.markWillNotBeRun reason i) := by
  unfold markWillNotBeRun
  split
  · next hstatus => exact marks_of_status i rfl (by rw [hstatus]; trivial)
  · exact .inl rfl

theorem Inv.step {m : Nat} {d d' : EventBufferStepData B P C F K A} {op : Op B P C F K A}
    (hinv : Inv m d) (h : d.step m op = some d') : Inv m d' := by
  cases op with
  | addHighPriority event => cases h; exact hinv.addHighPriorityStepEvent event
  | addLowPriority event => exact hinv.addLowPriorityStepEvent h
  | setProgress progress => cases h; exact hinv.setProgress progress
  | markCompleted reason i => cases h; exact (markCompleted_marks d reason i).inv hinv
  | markFailed reason i => cases h; exact (markFailed_marks d reason i).inv hinv
  | markAborted reason i => cases h; exact (markAborted_marks d reason i).inv hinv
  | markWillNotBeRun reason i => cases h; exact (markWillNotBeRun_marks d reason i).inv hinv

theorem run_inv {m : Nat} {d d' : EventBufferStepData B P C F K A} (hinv : Inv m d)
    (ops : List (Op B P C F K A)) (h : d.run m ops = some d') : Inv m d' :=
  Option.foldlM_inv (Inv m) (fun _ _ _ hb hstep => hb.step hstep) ops hinv h

/-- Every state a run from a new step reaches keeps the invariant. -/
theorem run_new_inv (m rootEventIndex : Nat) (ops : List (Op B P C F K A))
    {d : EventBufferStepData B P C F K A} (h : (new rootEventIndex).run m ops = some d) :
    Inv m d :=
  run_inv (inv_new m rootEventIndex) ops h

/-- A step that starts, gets two low-priority events in a buffer that keeps one, a high-priority
    event twice (the second time through a nested execution), and then completes. -/
def sampleOps : List (Op Unit Unit Unit Unit Unit Unit) :=
  [.setProgress (), .addLowPriority (.leaf 1 ()), .addHighPriority (.leaf 2 ()),
    .addLowPriority (.leaf 3 ()), .addHighPriority (.nested 4 () (.leaf 2 ())),
    .markCompleted () 5]

theorem run_new_inv_sampleOps : ∃ d, (new 0).run 1 sampleOps = some d ∧ Inv 1 d :=
  ⟨_, rfl, run_new_inv 1 0 sampleOps rfl⟩

theorem keeps_addHighPriorityStepEvent (d : EventBufferStepData B P C F K A) (e : StepEvent B) :
    Keeps d (d.addHighPriorityStepEvent e) := by
  unfold addHighPriorityStepEvent
  split
  · exact Keeps.refl d
  · exact ⟨List.sublist_insertIdx _ _ _, Nat.le_max_left _ _, StepStatus.Keeps.refl _⟩

theorem keeps_addLowPriorityStepEvent {m : Nat} {d d' : EventBufferStepData B P C F K A}
    {e : StepEvent B} (h : d.addLowPriorityStepEvent e m = some d') : Keeps d d' := by
  unfold addLowPriorityStepEvent at h
  split at h
  · cases h
  · next hstatus =>
    -- still running, whether the event was a duplicate or not
    have hkeeps : ∀ low progress, d.stepStatus.Keeps (.running low progress) := by
      intro low progress
      rw [hstatus]
      trivial
    split at h
    · cases h
      exact ⟨List.Sublist.refl _, Nat.le_refl _, hkeeps _ _⟩
    · cases h
      exact ⟨List.Sublist.refl _, Nat.le_max_left _ _, hkeeps _ _⟩
  · cases h
    exact Keeps.refl d

theorem keeps_setProgress (d : EventBufferStepData B P C F K A) (progress : P) :
    Keeps d (d.setProgress progress) := by
  unfold setProgress
  split
  · next hstatus => exact ⟨List.Sublist.refl _, Nat.le_refl _, by rw [hstatus]; trivial⟩
  · next hstatus => exact ⟨List.Sublist.refl _, Nat.le_refl _, by rw [hstatus]; trivial⟩
  · next hstatus => exact ⟨List.Sublist.refl _, Nat.le_refl _, by rw [hstatus]; exact ⟨_, rfl⟩⟩
  · exact Keeps.refl d

theorem keeps_step {m : Nat} {d d' : EventBufferStepData B P C F K A} {op : Op B P C F K A}
    (h : d.step m op = some d') : Keeps d d' := by
  cases op with
  | addHighPriority event => cases h; exact keeps_addHighPriorityStepEvent d event
  | addLowPriority event => exact keeps_addLowPriorityStepEvent h
  | setProgress progress => cases h; exact keeps_setProgress d progress
  | markCompleted reason i => cases h; exact (markCompleted_marks d reason i).keeps
  | markFailed reason i => cases h; exact (markFailed_marks d reason i).keeps
  | markAborted reason i => cases h; exact (markAborted_marks d reason i).keeps
  | markWillNotBeRun reason i => cases h; exact (markWillNotBeRun_marks d reason i).keeps

/-- Over any run, the step data keeps what `Keeps` says: no high-priority event is lost or moved,
    the root event index never goes back, and a terminated status stays with its reason. -/
theorem run_keeps {m : Nat} {d d' : EventBufferStepData B P C F K A} (ops : List (Op B P C F K A))
    (h : d.run m ops = some d') : Keeps d d' :=
  Option.foldlM_inv (Keeps d) (fun _ _ _ hb hstep => hb.trans (keeps_step hstep)) ops
    (Keeps.refl d) h

theorem run_keeps_sampleOps :
    ∃ d, (new 0).run 1 sampleOps = some d ∧ Keeps (new 0) d :=
  ⟨_, rfl, run_keeps (m := 1) sampleOps rfl⟩

end EventBufferStepData

/-! ## 5. High-priority events: the first of each leaf -/

/-- The events of the `addHighPriority` operations, in order. -/
def highPriorityEvents {B P C F K A : Type} : List (Op B P C F K A) → List (StepEvent B)
  | [] => []
  | .addHighPriority event :: ops => event :: highPriorityEvents ops
  | _ :: ops => highPriorityEvents ops

theorem highPriorityEvents_cons {B P C F K A : Type} (op : Op B P C F K A)
    (ops : List (Op B P C F K A)) :
    highPriorityEvents (op :: ops) = highPriorityEvents [op] ++ highPriorityEvents ops := by
  cases op <;> rfl

/-- An event of leaf `leaf`, as `find?` looks for it. -/
def StepEvent.isOfLeaf {B : Type} (leaf : Nat) (e : StepEvent B) : Bool :=
  e.leafEventIndex == leaf

section FirstOfLeaf

variable {B : Type} {events : List (StepEvent B)} {e : StepEvent B}

/-- Appending an event of a leaf already there changes no search by leaf. -/
theorem find?_append_of_mem_leaf (x : StepEvent B) (hx : x ∈ events)
    (hleaf : x.leafEventIndex = e.leafEventIndex) (leaf : Nat) :
    (events ++ [e]).find? (StepEvent.isOfLeaf leaf) = events.find? (StepEvent.isOfLeaf leaf) := by
  rw [List.find?_append]
  by_cases he : e.leafEventIndex = leaf
  · have hsome : (events.find? (StepEvent.isOfLeaf leaf)).isSome := by
      rw [List.find?_isSome]
      exact ⟨x, hx, by simp [StepEvent.isOfLeaf, hleaf, he]⟩
    obtain ⟨y, hy⟩ := Option.isSome_iff_exists.mp hsome
    rw [hy, Option.some_or]
  · have hnone : [e].find? (StepEvent.isOfLeaf leaf) = none := by
      simp [StepEvent.isOfLeaf, he]
    rw [hnone, Option.or_none]

/-- Inserting at the `Err` of the search by leaf is, for every search by leaf, appending. -/
theorem find?_insertIdx_of_error {i : Nat} (hs : LeafSorted events)
    (h : binarySearchBy events (EventBufferStepData.byLeaf e) = .error i) (leaf : Nat) :
    (events.insertIdx i e).find? (StepEvent.isOfLeaf leaf) =
      (events ++ [e]).find? (StepEvent.isOfLeaf leaf) := by
  have hnew : ∀ x ∈ events, x.leafEventIndex ≠ e.leafEventIndex := fun x hx hleaf =>
    binarySearchBy_error_ne_eq (SortedBy.of_pairwise_lt hs _) h x hx (compare_eq_iff_eq.mpr hleaf)
  rw [insertIdx_eq_take_append_drop i events (binarySearchBy_error_le h), List.find?_append,
    List.find?_append]
  by_cases he : e.leafEventIndex = leaf
  · -- the new leaf: nothing before it in the list has it
    have hnone : (events.take i).find? (StepEvent.isOfLeaf leaf) = none := by
      rw [List.find?_eq_none]
      intro x hx
      simpa [StepEvent.isOfLeaf, ← he] using hnew x (List.mem_of_mem_take hx)
    have hnone' : events.find? (StepEvent.isOfLeaf leaf) = none := by
      rw [List.find?_eq_none]
      intro x hx
      simpa [StepEvent.isOfLeaf, ← he] using hnew x hx
    rw [hnone, hnone', List.find?_cons_of_pos (by simp [StepEvent.isOfLeaf, he])]
    simp [StepEvent.isOfLeaf, he]
  · -- another leaf: the search skips the new event
    rw [List.find?_cons_of_neg (by simp [StepEvent.isOfLeaf, he]),
      List.find?_singleton, ← List.find?_append, List.take_append_drop]
    simp [StepEvent.isOfLeaf, he]

end FirstOfLeaf

namespace EventBufferStepData

variable {B P C F K A : Type}

/-- `add_high_priority_step_event`, searched by leaf: the event is appended, and a search for
    its leaf finds the first event of that leaf that came. -/
theorem find?_addHighPriorityStepEvent {d : EventBufferStepData B P C F K A}
    (hs : LeafSorted d.highPriority) (e : StepEvent B) (leaf : Nat) :
    (d.addHighPriorityStepEvent e).highPriority.find? (StepEvent.isOfLeaf leaf) =
      (d.highPriority ++ [e]).find? (StepEvent.isOfLeaf leaf) := by
  unfold addHighPriorityStepEvent
  split
  · next index hsearch =>
    obtain ⟨hi, hcmp⟩ := binarySearchBy_sound hsearch
    exact (find?_append_of_mem_leaf _ (List.getElem_mem hi) (compare_eq_iff_eq.mp hcmp) leaf).symm
  · next index hsearch => exact find?_insertIdx_of_error hs hsearch leaf

theorem highPriority_addLowPriorityStepEvent {m : Nat} {d d' : EventBufferStepData B P C F K A}
    {e : StepEvent B} (h : d.addLowPriorityStepEvent e m = some d') :
    d'.highPriority = d.highPriority := by
  unfold addLowPriorityStepEvent at h
  split at h
  · cases h
  · split at h <;> cases h <;> rfl
  · cases h
    rfl

theorem highPriority_setProgress (d : EventBufferStepData B P C F K A) (progress : P) :
    (d.setProgress progress).highPriority = d.highPriority := by
  unfold setProgress
  split <;> rfl

theorem find?_step {m : Nat} {d d' : EventBufferStepData B P C F K A} {op : Op B P C F K A}
    (hs : LeafSorted d.highPriority) (h : d.step m op = some d') (leaf : Nat) :
    d'.highPriority.find? (StepEvent.isOfLeaf leaf) =
      (d.highPriority ++ highPriorityEvents [op]).find? (StepEvent.isOfLeaf leaf) := by
  cases op with
  | addHighPriority event => cases h; exact find?_addHighPriorityStepEvent hs event leaf
  | addLowPriority event => rw [highPriority_addLowPriorityStepEvent h]; simp [highPriorityEvents]
  | setProgress progress => cases h; simp [highPriority_setProgress, highPriorityEvents]
  | markCompleted reason i =>
    cases h; simp [(markCompleted_marks d reason i).highPriority_eq, highPriorityEvents]
  | markFailed reason i =>
    cases h; simp [(markFailed_marks d reason i).highPriority_eq, highPriorityEvents]
  | markAborted reason i =>
    cases h; simp [(markAborted_marks d reason i).highPriority_eq, highPriorityEvents]
  | markWillNotBeRun reason i =>
    cases h; simp [(markWillNotBeRun_marks d reason i).highPriority_eq, highPriorityEvents]

/-- **Deduplication by leaf over a whole run**: after any run from a state that keeps the
    invariant, the high-priority event stored for a leaf is the first event of that leaf the step
    ever had, stored before the run or added during it; one of a leaf none of them had is not
    stored. With `Inv`, sorted by leaf with no leaf twice, this fixes the whole list. -/
theorem run_highPriority_first {m : Nat} :
    ∀ {d d' : EventBufferStepData B P C F K A} (ops : List (Op B P C F K A)), Inv m d →
      d.run m ops = some d' → ∀ leaf : Nat,
        d'.highPriority.find? (StepEvent.isOfLeaf leaf) =
          (d.highPriority ++ highPriorityEvents ops).find? (StepEvent.isOfLeaf leaf)
  | d, d', [], _, h, leaf => by
    cases h
    simp [highPriorityEvents]
  | d, d', op :: ops, hinv, h, leaf => by
    rw [run_cons, Option.bind_eq_some_iff] at h
    obtain ⟨d₁, hstep, hrest⟩ := h
    -- the invariant carries over the first operation, so the rest of the run is sorted
    have ih := run_highPriority_first ops (hinv.step hstep) hrest leaf
    calc d'.highPriority.find? (StepEvent.isOfLeaf leaf)
        = (d₁.highPriority ++ highPriorityEvents ops).find? (StepEvent.isOfLeaf leaf) := ih
      _ = (d₁.highPriority.find? (StepEvent.isOfLeaf leaf)).or
            ((highPriorityEvents ops).find? (StepEvent.isOfLeaf leaf)) := List.find?_append
      _ = ((d.highPriority ++ highPriorityEvents [op]).find? (StepEvent.isOfLeaf leaf)).or
            ((highPriorityEvents ops).find? (StepEvent.isOfLeaf leaf)) := by
          rw [find?_step hinv.highPriority_sorted hstep leaf]
      _ = (d.highPriority ++ highPriorityEvents [op] ++ highPriorityEvents ops).find?
            (StepEvent.isOfLeaf leaf) := List.find?_append.symm
      _ = (d.highPriority ++ highPriorityEvents (op :: ops)).find? (StepEvent.isOfLeaf leaf) := by
          rw [highPriorityEvents_cons op ops, List.append_assoc]

theorem run_highPriority_first_sampleOps :
    ∃ d, (new 0).run 1 sampleOps = some d ∧
      Inv 1 (new 0 : EventBufferStepData Unit Unit Unit Unit Unit Unit) ∧
      ∀ leaf : Nat, d.highPriority.find? (StepEvent.isOfLeaf leaf) =
        (([] : List (StepEvent Unit)) ++ highPriorityEvents sampleOps).find?
          (StepEvent.isOfLeaf leaf) :=
  ⟨_, rfl, inv_new 1 0, run_highPriority_first sampleOps (inv_new 1 0) rfl⟩

example : ((new 0).run 1 sampleOps).map (·.highPriority) = some [.leaf 2 ()] := rfl

end EventBufferStepData

end Omicron.UpdateEngine
