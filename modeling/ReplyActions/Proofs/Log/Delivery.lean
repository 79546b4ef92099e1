import ReplyActions.Log.Sink

/-!
# What reaches the sinks

Every record reaches every sink, whichever sinks fail and wherever in the list they stand. So what a
sink holds after any number of calls depends on the records alone, and every call comes back with
the failure of the first sink that fails.
-/

namespace ReplyActions.Log

/-- What is to be logged, before it is known by which module. -/
structure Call where
  level : Level
  message : String
  details : Datum

def Telemetry.recordOf (t : Telemetry) (call : Call) : Record :=
  ⟨t.module, call.level, call.message, metadataOf call.details⟩

/-- The calls one after the other: the failures they come back with, and the telemetry
afterwards. -/
def Telemetry.logAll (t : Telemetry) : List Call → List (Option String) × Telemetry
  | [] => ([], t)
  | call :: rest =>
    let (failure, next) := t.log call.level call.message (metadataOf call.details)
    let (failures, last) := logAll next rest
    (failure :: failures, last)

/-- The last records of a list, at most `n`. -/
def newest (n : Nat) (records : List Record) : List Record := records.drop (records.length - n)

namespace Sink

/-- The sink after it has been handed some records. -/
def after : Sink → List Record → Sink
  | memory capacity kept, records => memory capacity (newest (roomFor capacity) (kept ++ records))
  | broken message, _ => broken message
  | file least lines, records =>
    file least (lines ++ records.filter fun r => least.rank ≤ r.level.rank)

/-- The sink holds no more than it has room for, as it does when it is new. -/
def IsWithinRoom : Sink → Prop
  | memory capacity kept => kept.length ≤ roomFor capacity
  | _ => True

def failure? : Sink → Option String
  | broken message => some message
  | _ => none

end Sink

/-- The message is that of the first sink that fails. -/
def FailsFirst (sinks : List Sink) (message : String) : Prop :=
  ∃ front back, sinks = front ++ .broken message :: back ∧ ∀ sink ∈ front, sink.failure? = none

/-! ### Memory -/

theorem newest_of_length_le {n : Nat} {records : List Record} (h : records.length ≤ n) :
    newest n records = records := by
  rw [newest, Nat.sub_eq_zero_of_le h, List.drop_zero]

theorem length_newest_le (n : Nat) (records : List Record) : (newest n records).length ≤ n := by
  rw [newest, List.length_drop]
  omega

/-- Records that have gone by then are not missed later. -/
theorem newest_newest_append (n : Nat) (front back : List Record) :
    newest n (newest n front ++ back) = newest n (front ++ back) := by
  have hdropped : front.length - n ≤ front.length := Nat.sub_le ..
  rw [newest, newest, newest, ← List.drop_append_of_le_length hdropped, List.drop_drop]
  congr 1
  rw [List.length_drop, List.length_append]
  omega

theorem pushed_eq_newest {capacity : Nat} {kept : List Record} (r : Record)
    (h : kept.length ≤ roomFor capacity) :
    pushed capacity kept r = newest (roomFor capacity) (kept ++ [r]) := by
  have hlength : (kept ++ [r]).length = kept.length + 1 := List.length_append
  simp only [pushed, newest]
  split
  · next hfull =>
    have hone : (kept ++ [r]).length - roomFor capacity = 1 := by omega
    rw [hone]
  · next hroom => rw [Nat.sub_eq_zero_of_le (Nat.not_lt.mp hroom), List.drop_zero]

/-! ### One record, and many -/

namespace Sink

variable {sink : Sink}

theorem accept_eq (r : Record) (h : sink.IsWithinRoom) :
    sink.accept r = (sink.failure?, sink.after [r]) := by
  cases sink with
  | memory capacity kept => simp only [accept, failure?, after, pushed_eq_newest r h]
  | broken message => rfl
  | file least lines =>
    simp only [accept, failure?, after, List.filter_cons, List.filter_nil, decide_eq_true_eq]
    by_cases hlow : r.level.rank < least.rank
    · rw [if_pos hlow, if_neg (Nat.not_le.mpr hlow), List.append_nil]
    · rw [if_neg hlow, if_pos (Nat.not_lt.mp hlow)]

theorem after_nil (h : sink.IsWithinRoom) : sink.after [] = sink := by
  cases sink with
  | memory capacity kept => rw [after, List.append_nil, newest_of_length_le h]
  | broken message => rfl
  | file least lines => rw [after, List.filter_nil, List.append_nil]

theorem after_append (sink : Sink) (front back : List Record) :
    (sink.after front).after back = sink.after (front ++ back) := by
  cases sink with
  | memory capacity kept => simp only [after, newest_newest_append, List.append_assoc]
  | broken message => rfl
  | file least lines => simp only [after, List.filter_append, List.append_assoc]

theorem isWithinRoom_after (sink : Sink) (records : List Record) :
    (sink.after records).IsWithinRoom := by
  cases sink with
  | memory capacity kept => exact length_newest_le ..
  | broken message => trivial
  | file least lines => trivial

theorem failure?_after (sink : Sink) (records : List Record) :
    (sink.after records).failure? = sink.failure? := by
  cases sink <;> rfl

theorem failure?_eq_some_iff {message : String} :
    sink.failure? = some message ↔ sink = broken message := by
  cases sink <;> simp [failure?]

end Sink

theorem noneFails_iff {sinks : List Sink} :
    sinks.findSome? Sink.failure? = none ↔ ∀ message, .broken message ∉ sinks := by
  rw [List.findSome?_eq_none_iff]
  constructor
  · intro hnone message hbroken
    exact Option.some_ne_none message (hnone _ hbroken)
  · intro hnone sink hm
    rw [Option.eq_none_iff_forall_ne_some]
    intro message hfails
    obtain rfl := Sink.failure?_eq_some_iff.mp hfails
    exact hnone message hm

theorem failsFirst_iff {sinks : List Sink} {message : String} :
    sinks.findSome? Sink.failure? = some message ↔ FailsFirst sinks message := by
  rw [List.findSome?_eq_some_iff]
  constructor
  · rintro ⟨front, sink, back, hsinks, hfails, hfront⟩
    obtain rfl := Sink.failure?_eq_some_iff.mp hfails
    exact ⟨front, back, hsinks, hfront⟩
  · rintro ⟨front, back, hsinks, hfront⟩
    exact ⟨front, .broken message, back, hsinks, rfl, hfront⟩

/-! ### All sinks -/

namespace Telemetry

variable {t : Telemetry}

/-- No sink is passed over, and the first failure comes back. -/
theorem log_eq (call : Call) (h : ∀ sink ∈ t.sinks, sink.IsWithinRoom) :
    t.log call.level call.message (metadataOf call.details) =
      (t.sinks.findSome? Sink.failure?,
        { t with sinks := t.sinks.map (·.after [t.recordOf call]) }) := by
  have houtcomes : t.sinks.map (·.accept (t.recordOf call)) =
      t.sinks.map fun sink => (sink.failure?, sink.after [t.recordOf call]) :=
    List.map_congr_left fun sink hm => Sink.accept_eq _ (h sink hm)
  rw [recordOf] at houtcomes
  simp only [log, houtcomes, List.findSome?_map, List.map_map]
  rfl

theorem logAll_eq (calls : List Call) (h : ∀ sink ∈ t.sinks, sink.IsWithinRoom) :
    t.logAll calls =
      (calls.map fun _ => t.sinks.findSome? Sink.failure?,
        { t with sinks := t.sinks.map (·.after (calls.map t.recordOf)) }) := by
  induction calls generalizing t with
  | nil =>
    have hsame : t.sinks.map (·.after []) = t.sinks :=
      (List.map_congr_left fun sink hm => Sink.after_nil (h sink hm)).trans (List.map_id' _)
    simp only [logAll, List.map_nil, hsame]
  | cons call rest ih =>
    have hnext : ∀ sink ∈ t.sinks.map (·.after [t.recordOf call]), sink.IsWithinRoom := by
      intro sink hm
      obtain ⟨before, -, rfl⟩ := List.mem_map.mp hm
      exact before.isWithinRoom_after _
    have hfailure : (t.sinks.map (·.after [t.recordOf call])).findSome? Sink.failure? =
        t.sinks.findSome? Sink.failure? := by
      rw [List.findSome?_map]
      exact congrArg (List.findSome? · t.sinks) (funext fun sink => sink.failure?_after _)
    simp only [logAll, log_eq call h]
    rw [ih hnext, hfailure, List.map_map, List.map_cons, List.map_cons]
    simp only [Function.comp_def, Sink.after_append, List.singleton_append]
    rfl

/-- The telemetry without the sinks that fail. -/
def working (t : Telemetry) : Telemetry :=
  { t with sinks := t.sinks.filter (·.failure?.isNone) }

/-- After any calls a sink in memory holds the newest of its records, as many as it has room for,
and a file holds those that are serious enough, both in the order of the calls. Every call fails
like the first sink that fails, or not at all if none does. To the others it makes no difference
which fail. -/
theorem logAll_reaches_every_sink (t : Telemetry) (calls : List Call)
    (h : ∀ sink ∈ t.sinks, sink.IsWithinRoom) :
    let done := t.logAll calls
    done.2.sinks = t.sinks.map (·.after (calls.map t.recordOf)) ∧
      done.1.length = calls.length ∧
      (∀ failure ∈ done.1, ∀ message, failure = some message ↔ FailsFirst t.sinks message) ∧
      (∀ failure ∈ done.1, failure = none ↔ ∀ message, Sink.broken message ∉ t.sinks) ∧
      (t.working.logAll calls).2.sinks = done.2.working.sinks := by
  have hworking : ∀ sink ∈ t.working.sinks, sink.IsWithinRoom :=
    fun sink hm => h sink (List.mem_filter.mp hm).1
  have hkind (records : List Record) :
      (fun sink : Sink => (sink.after records).failure?.isNone) =
        fun sink => sink.failure?.isNone :=
    funext fun sink => congrArg Option.isNone (sink.failure?_after records)
  intro done
  have hdone : done = _ := logAll_eq calls h
  rw [hdone, logAll_eq calls hworking]
  refine ⟨rfl, List.length_map _, ?_, ?_, ?_⟩
  · intro failure hm message
    obtain ⟨-, -, rfl⟩ := List.mem_map.mp hm
    exact failsFirst_iff
  · intro failure hm
    obtain ⟨-, -, rfl⟩ := List.mem_map.mp hm
    exact noneFails_iff
  · simp only [working, List.filter_map, Function.comp_def, hkind]
    rfl

/-- Two records are too many for the first sink, and the first record is not serious enough for the
file. -/
theorem logAll_reaches_every_sink_of_four :
    let t : Telemetry := ⟨"m", [.memory 0 [], .broken "full", .file .warn [], .broken "gone"]⟩
    let calls : List Call := [⟨.info, "a", .null⟩, ⟨.error, "b", .int 7⟩]
    let done := t.logAll calls
    (∀ sink ∈ t.sinks, sink.IsWithinRoom) ∧ done.1 = [some "full", some "full"] ∧
      FailsFirst t.sinks "full" ∧
      done.2.sinks = [.memory 0 [t.recordOf ⟨.error, "b", .int 7⟩], .broken "full",
        .file .warn [t.recordOf ⟨.error, "b", .int 7⟩], .broken "gone"] := by
  intro t calls done
  have hroom : ∀ sink ∈ t.sinks, sink.IsWithinRoom := by
    simp [t, Sink.IsWithinRoom]
  obtain ⟨hsinks, -, hfailures, -, -⟩ := logAll_reaches_every_sink t calls hroom
  have hdone : done.1 = [some "full", some "full"] := by decide +kernel
  refine ⟨hroom, hdone, (hfailures (some "full") ?_ "full").mp rfl, ?_⟩
  · rw [hdone]
    exact List.mem_cons_self
  · rw [hsinks]
    decide +kernel

end Telemetry

end ReplyActions.Log
