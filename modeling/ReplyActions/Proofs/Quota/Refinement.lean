import ReplyActions.Proofs.Quota.Tracking

/-!
# A ledger forgets nothing that matters

A ledger is asked again and again, and swept in between. Every answer is the one that the complete
list of earlier grants to the same pair demands, though the ledger keeps no such list. So sweeps
and the requests of other pairs leave no trace in what a pair is told.
-/

namespace ReplyActions.Quota
open Number

structure Request where
  key : Key
  now : Tick
  magnitude : Option Points
deriving DecidableEq

inductive Call where
  | acquire (request : Request)
  | sweep (now : Tick)

namespace Call

def now : Call → Tick
  | acquire request => request.now
  | sweep now => now

def request? : Call → Option Request
  | acquire request => some request
  | sweep _ => none

end Call

structure Answer where
  request : Request
  outcome : Except Denial Unit

def Answer.grant? (answer : Answer) : Option Grant :=
  match answer.outcome with
  | .ok () => some ⟨answer.request.now, answer.request.magnitude⟩
  | .error _ => none

/-- A ledger in use, with the answers that it has given so far. -/
structure Course where
  answers : List Answer
  ledger : Ledger

namespace Course

def start (dayLength : Tick) : Course := ⟨[], .empty dayLength⟩

/-- One more call. Each pair has its own policy. -/
def serve (policies : Key → Policy) (course : Course) : Call → Course
  | .acquire request =>
    let (outcome, ledger) := course.ledger.tryAcquire (policies request.key) request.key
      request.now request.magnitude
    ⟨course.answers ++ [⟨request, outcome⟩], ledger⟩
  | .sweep now => ⟨course.answers, course.ledger.swept now⟩

def serveAll (policies : Key → Policy) (course : Course) (calls : List Call) : Course :=
  calls.foldl (serve policies) course

end Course

def requestsOn (key : Key) (calls : List Call) : List Request :=
  (calls.filterMap Call.request?).filter (·.key = key)

def answersOn (key : Key) (answers : List Answer) : List Answer :=
  answers.filter (·.request.key = key)

def grantsOf (key : Key) (answers : List Answer) : List Grant :=
  (answersOn key answers).filterMap Answer.grant?

theorem answersOn_append (key : Key) (xs ys : List Answer) :
    answersOn key (xs ++ ys) = answersOn key xs ++ answersOn key ys :=
  List.filter_append ..

theorem answersOn_self (answer : Answer) (rest : List Answer) :
    answersOn answer.request.key (answer :: rest) =
      answer :: answersOn answer.request.key rest := by
  simp only [answersOn, List.filter_cons, decide_true, if_true]

theorem answersOn_other {key : Key} {answer : Answer} (h : answer.request.key ≠ key) :
    answersOn key [answer] = [] := by
  simp only [answersOn, List.filter_cons, List.filter_nil, h, decide_false,
    Bool.false_eq_true, if_false]

theorem grantsOf_append (key : Key) (xs ys : List Answer) :
    grantsOf key (xs ++ ys) = grantsOf key xs ++ grantsOf key ys := by
  simp only [grantsOf, answersOn_append, List.filterMap_append]

/-! ### Answers judged by the grants before them -/

/-- Every answer is the one that the grants before it demand. -/
def Judged (dayLength : Nat) (policy : Policy) : List Grant → List Answer → Prop
  | _, [] => True
  | history, answer :: rest =>
    verdictOf answer.outcome =
        judge dayLength policy history answer.request.now answer.request.magnitude ∧
      Judged dayLength policy (history ++ answer.grant?.toList) rest

variable {dayLength : Nat} {policy : Policy}

theorem judged_append (history : List Grant) (xs ys : List Answer) :
    Judged dayLength policy history (xs ++ ys) ↔
      Judged dayLength policy history xs ∧
        Judged dayLength policy (history ++ xs.filterMap Answer.grant?) ys := by
  induction xs generalizing history with
  | nil => simp only [List.nil_append, Judged, List.filterMap_nil, List.append_nil, true_and]
  | cons x xs ih =>
    have hgrants : history ++ (x :: xs).filterMap Answer.grant? =
        (history ++ x.grant?.toList) ++ xs.filterMap Answer.grant? := by
      rw [List.append_assoc, List.filterMap_cons]
      cases x.grant? <;> rfl
    rw [List.cons_append, Judged, Judged, ih, hgrants, and_assoc]

theorem Judged.unique {history : List Grant} {xs ys : List Answer}
    (hx : Judged dayLength policy history xs) (hy : Judged dayLength policy history ys)
    (h : xs.map (·.request) = ys.map (·.request)) : xs = ys := by
  induction xs generalizing history ys with
  | nil => exact (List.map_eq_nil_iff.mp h.symm).symm
  | cons x xs ih =>
    cases ys with
    | nil => contradiction
    | cons y ys =>
      rw [List.map_cons, List.map_cons] at h
      injection h with hrequest hrest
      obtain ⟨hvx, hjx⟩ := hx
      obtain ⟨hvy, hjy⟩ := hy
      have houtcome : x.outcome = y.outcome := verdictOf_injective (by rw [hvx, hvy, hrequest])
      have hxy : x = y := by
        cases x
        cases y
        simp only at hrequest houtcome
        rw [hrequest, houtcome]
      subst hxy
      rw [ih hjx hjy hrest]

/-! ### What one call preserves -/

/-- The ledger is right about every pair, and has been so far. -/
structure Course.Sound (policies : Key → Policy) (dayLength : Nat) (course : Course)
    (seen : Nat) : Prop where
  day : course.ledger.dayLength.val = dayLength
  tracks : ∀ key, Tracks dayLength (policies key) (grantsOf key course.answers)
    (course.ledger.usage? key) seen
  keeps : ∀ key, Keeps dayLength (policies key) (grantsOf key course.answers)
  judged : ∀ key, Judged dayLength (policies key) [] (answersOn key course.answers)

def CapsBelowMax (policies : Key → Policy) : Prop :=
  ∀ key cap, (policies key).magnitudeCap = some cap → cap.val < 2147483647

theorem Ledger.tryAcquire_ok {ledger : Ledger} {key : Key} {now : Tick}
    {magnitude : Option Points} (h : ledger.check policy key now magnitude = .ok ()) :
    ledger.tryAcquire policy key now magnitude =
      (.ok (), ledger.record policy key now magnitude) := by
  rw [tryAcquire, h]

theorem Ledger.tryAcquire_error {ledger : Ledger} {key : Key} {now : Tick}
    {magnitude : Option Points} {denial : Denial}
    (h : ledger.check policy key now magnitude = .error denial) :
    ledger.tryAcquire policy key now magnitude = (.error denial, ledger) := by
  rw [tryAcquire, h]

theorem Ledger.tryAcquire_of_denied {ledger : Ledger} {key : Key} {now : Tick}
    {magnitude : Option Points} {denial : Denial}
    (h : (ledger.tryAcquire policy key now magnitude).1 = .error denial) :
    (ledger.tryAcquire policy key now magnitude).2 = ledger := by
  cases hc : ledger.check policy key now magnitude with
  | ok granted =>
    rw [tryAcquire_ok hc] at h
    contradiction
  | error denial => rw [tryAcquire_error hc]

namespace Course.Sound

variable {policies : Key → Policy} {course : Course} {seen : Nat}

theorem start (policies : Key → Policy) (dayLength : Tick) :
    (Course.start dayLength).Sound policies (Ledger.empty dayLength).dayLength.val 0 where
  day := rfl
  tracks _ := tracks_nil
  keeps _ := keeps_nil
  judged _ := trivial

theorem later (h : course.Sound policies dayLength seen) {now : Nat} (hn : seen ≤ now) :
    course.Sound policies dayLength now :=
  ⟨h.day, fun key => (h.tracks key).later hn, h.keeps, h.judged⟩

theorem sweep {now : Tick} (h : course.Sound policies dayLength now.val) :
    (course.serve policies (.sweep now)).Sound policies dayLength now.val := by
  refine ⟨h.day, fun key => ?_, h.keeps, h.judged⟩
  have ht := h.tracks key
  rw [← h.day] at ht ⊢
  exact ht.swept

theorem judged_snoc (h : course.Sound policies dayLength seen) (answer : Answer)
    (hv : verdictOf answer.outcome =
      judge dayLength (policies answer.request.key) (grantsOf answer.request.key course.answers)
        answer.request.now answer.request.magnitude) (key : Key) :
    Judged dayLength (policies key) [] (answersOn key (course.answers ++ [answer])) := by
  rw [answersOn_append]
  by_cases hk : answer.request.key = key
  · subst hk
    rw [answersOn_self, judged_append]
    exact ⟨h.judged _, hv, trivial⟩
  · rw [answersOn_other hk, List.append_nil]
    exact h.judged key

theorem grantsOf_snoc (key : Key) (answers : List Answer) (answer : Answer) :
    grantsOf key (answers ++ [answer]) = grantsOf key answers ++
      if answer.request.key = key then answer.grant?.toList else [] := by
  rw [grantsOf_append]
  split
  · next hk =>
    subst hk
    rw [grantsOf, grantsOf, answersOn_self, List.filterMap_cons]
    cases answer.grant? <;> rfl
  · next hk =>
    rw [grantsOf, grantsOf, answersOn_other hk]
    rfl

theorem acquire {request : Request} (hcap : CapsBelowMax policies)
    (h : course.Sound policies dayLength request.now.val) :
    (course.serve policies (.acquire request)).Sound policies dayLength request.now.val := by
  obtain ⟨key, now, magnitude⟩ := request
  have ht := h.tracks key
  have hk := h.keeps key
  have hv := h.judged_snoc
    ⟨⟨key, now, magnitude⟩, course.ledger.check (policies key) key now magnitude⟩
  simp only at ht hv
  rw [← h.day] at ht hk hv ⊢
  have hjudge := verdictOf_check magnitude (hcap key) ht hk
  specialize hv hjudge
  cases hc : course.ledger.check (policies key) key now magnitude with
  | error denial =>
    -- no grant: the ledger stays, and so do the grants to each pair
    rw [hc] at hv
    have hgrants : ∀ other, grantsOf other
        (course.answers ++ [⟨⟨key, now, magnitude⟩, .error denial⟩]) =
          grantsOf other course.answers := fun other => by
      rw [grantsOf_snoc]
      split <;> exact List.append_nil _
    simp only [serve, Ledger.tryAcquire_error hc]
    refine ⟨rfl, fun other => ?_, fun other => ?_, hv⟩
    · rw [hgrants, h.day]
      exact h.tracks other
    · rw [hgrants, h.day]
      exact h.keeps other
  | ok granted =>
    obtain ⟨⟩ := granted
    rw [hc] at hv hjudge
    simp only [serve, Ledger.tryAcquire_ok hc]
    refine ⟨rfl, fun other => ?_, fun other => ?_, hv⟩
    · rw [grantsOf_snoc]
      by_cases ho : key = other
      · subst ho
        rw [if_pos rfl]
        exact ht.record magnitude
      · rw [if_neg ho, List.append_nil, usage?_record, if_neg ho, h.day]
        exact h.tracks other
    · rw [grantsOf_snoc]
      by_cases ho : key = other
      · subst ho
        rw [if_pos rfl]
        exact hk.snoc ht.past hjudge.symm
      · rw [if_neg ho, List.append_nil, h.day]
        exact h.keeps other

theorem serve (hcap : CapsBelowMax policies) (h : course.Sound policies dayLength seen)
    (call : Call) (hn : seen ≤ call.now.val) :
    (course.serve policies call).Sound policies dayLength call.now.val := by
  cases call with
  | acquire request => exact (h.later hn).acquire hcap
  | sweep now => exact (h.later hn).sweep

end Course.Sound

/-! ### What a whole run preserves -/

section Run

variable (policies : Key → Policy) (course : Course)

theorem Course.serveAll_cons (call : Call) (calls : List Call) :
    course.serveAll policies (call :: calls) =
      (course.serve policies call).serveAll policies calls :=
  List.foldl_cons ..

theorem Course.serveAll_snoc (calls : List Call) (call : Call) :
    course.serveAll policies (calls ++ [call]) =
      (course.serveAll policies calls).serve policies call := by
  simp only [Course.serveAll, List.foldl_append, List.foldl_cons, List.foldl_nil]

theorem Course.requests_serve (call : Call) :
    (course.serve policies call).answers.map (·.request) =
      course.answers.map (·.request) ++ call.request?.toList := by
  cases call with
  | acquire request =>
    simp only [Course.serve, List.map_append, List.map_cons, List.map_nil, Call.request?,
      Option.toList_some]
  | sweep now => exact (List.append_nil _).symm

theorem Course.requests_serveAll (calls : List Call) :
    (course.serveAll policies calls).answers.map (·.request) =
      course.answers.map (·.request) ++ calls.filterMap Call.request? := by
  induction calls generalizing course with
  | nil => exact (List.append_nil _).symm
  | cons call calls ih =>
    rw [Course.serveAll_cons, ih, Course.requests_serve, List.append_assoc, List.filterMap_cons]
    cases call.request? <;> rfl

theorem requests_answersOn (key : Key) (answers : List Answer) :
    (answersOn key answers).map (·.request) =
      (answers.map (·.request)).filter (·.key = key) := by
  rw [answersOn, List.filter_map]
  rfl

theorem Course.serve_of_denied {call : Call} {answer : Answer} {denial : Denial}
    (h : (course.serve policies call).answers = course.answers ++ [answer])
    (hd : answer.outcome = .error denial) :
    (course.serve policies call).ledger = course.ledger := by
  cases call with
  | sweep now =>
    have hnil : ([] : List Answer) = [answer] :=
      List.append_cancel_left ((List.append_nil _).trans h)
    contradiction
  | acquire request =>
    have heq := List.append_cancel_left h
    injection heq with heq
    rw [← heq] at hd
    exact Ledger.tryAcquire_of_denied hd

variable {policies course} {seen : Nat}

theorem Course.Sound.serveAll (hcap : CapsBelowMax policies) {calls : List Call}
    (h : course.Sound policies dayLength seen) (hn : ∀ call ∈ calls, seen ≤ call.now.val)
    (hs : calls.Pairwise fun earlier later => earlier.now.val ≤ later.now.val) :
    ∃ seen, (course.serveAll policies calls).Sound policies dayLength seen := by
  induction calls generalizing course seen with
  | nil => exact ⟨seen, h⟩
  | cons call calls ih =>
    rw [Course.serveAll_cons]
    exact ih (h.serve hcap call (hn call List.mem_cons_self))
      (fun later hl => List.rel_of_pairwise_cons hs hl) hs.of_cons

theorem Course.Sound.verdict (h : course.Sound policies dayLength seen)
    {before after : List Answer} {answer : Answer}
    (he : course.answers = before ++ answer :: after) :
    verdictOf answer.outcome =
      judge dayLength (policies answer.request.key) (grantsOf answer.request.key before)
        answer.request.now answer.request.magnitude := by
  have hj := h.judged answer.request.key
  rw [he, answersOn_append, answersOn_self, judged_append] at hj
  exact hj.2.1

theorem sound_serveAll_start (hcap : CapsBelowMax policies) (dayLength : Tick)
    {calls : List Call}
    (hs : calls.Pairwise fun earlier later => earlier.now.val ≤ later.now.val) :
    ∃ seen, ((Course.start dayLength).serveAll policies calls).Sound policies
      (Ledger.empty dayLength).dayLength.val seen :=
  (Course.Sound.start policies dayLength).serveAll hcap (fun _ _ => Nat.zero_le _) hs

/-- A ledger in use, with sweeps in between, is as good as the complete list of all grants: its
answers are those that the list demands, so the limits hold. What is denied changes nothing, and a
pair is told what it would be told if other calls stood between its own. -/
theorem serveAll_refines_history (dayLength : Tick) (policies : Key → Policy)
    (calls : List Call) (hcap : CapsBelowMax policies)
    (hs : calls.Pairwise fun earlier later => earlier.now.val ≤ later.now.val) :
    let day := (Ledger.empty dayLength).dayLength.val
    let run := (Course.start dayLength).serveAll policies
    (run calls).answers.map (·.request) = calls.filterMap Call.request? ∧
      (∀ before answer after, (run calls).answers = before ++ answer :: after →
        verdictOf answer.outcome =
          judge day (policies answer.request.key) (grantsOf answer.request.key before)
            answer.request.now answer.request.magnitude) ∧
      (∀ key, Keeps day (policies key) (grantsOf key (run calls).answers)) ∧
      (∀ front call back, calls = front ++ call :: back → ∀ answer denial,
        (run (front ++ [call])).answers = (run front).answers ++ [answer] →
          answer.outcome = .error denial → (run (front ++ [call])).ledger = (run front).ledger) ∧
      ∀ key others, (others.Pairwise fun earlier later => earlier.now.val ≤ later.now.val) →
        requestsOn key others = requestsOn key calls →
          answersOn key (run others).answers = answersOn key (run calls).answers := by
  intro day run
  have hrequests : ∀ calls, (run calls).answers.map (·.request) = calls.filterMap Call.request? :=
    fun calls => Course.requests_serveAll policies (Course.start dayLength) calls
  obtain ⟨seen, hsound⟩ := sound_serveAll_start hcap dayLength hs
  refine ⟨hrequests calls, fun before answer after he => hsound.verdict he, hsound.keeps, ?_, ?_⟩
  · intro front call back _ answer denial ha hd
    simp only [run, Course.serveAll_snoc] at ha ⊢
    exact Course.serve_of_denied policies _ ha hd
  · intro key others hothers heq
    obtain ⟨_, hsound'⟩ := sound_serveAll_start hcap dayLength hothers
    refine (hsound'.judged key).unique (hsound.judged key) ?_
    rw [requests_answersOn, requests_answersOn, hrequests others, hrequests calls]
    exact heq

/-- One grant a day to a pair, asked for twice in a day with a sweep in between. -/
theorem serveAll_refines_history_daily :
    let policies : Key → Policy := fun _ => ⟨some 5, some 1, some 10⟩
    let key : Key := ⟨"BOOST", "a"⟩
    let calls : List Call :=
      [.acquire ⟨key, 0, some 4⟩, .sweep 6, .acquire ⟨key, 7, some 4⟩, .acquire ⟨key, 24, none⟩]
    CapsBelowMax policies ∧
      (calls.Pairwise fun earlier later => earlier.now.val ≤ later.now.val) ∧
      Keeps 24 (policies key) (grantsOf key ((Course.start 24).serveAll policies calls).answers) ∧
      grantsOf key ((Course.start 24).serveAll policies calls).answers =
        [⟨0, some 4⟩, ⟨24, none⟩] := by
  intro policies key calls
  have hcap : CapsBelowMax policies := by
    intro key cap hc
    injection hc with hc
    subst hc
    decide
  have hs : calls.Pairwise fun earlier later => earlier.now.val ≤ later.now.val := by decide
  exact ⟨hcap, hs, (serveAll_refines_history 24 policies calls hcap hs).2.2.1 key, by decide⟩

end Run

end ReplyActions.Quota
