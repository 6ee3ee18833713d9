import AsioForwarder.SendQueue

/-!
# The policy `disconnect`

A refused frame only posts `stop()`, behind the handlers which wait on the
strand already.  A smaller frame among them is judged on its own, and if it is
accepted and its write starts before the stop runs, the peer sees a gap.

`Mark` records the frames submitted and the frames of which a first byte is
handed to the socket.  The frames accepted before a refusal are `early`, those
accepted after it `late`; the invariant says that no write of a late frame can
start before the stop.
-/

namespace AsioForwarder

namespace TcpSession

inductive Mark where
  | submitted (frame : Wire)
  | transmitted (frame : Wire)
  deriving DecidableEq

def marks (s : TcpSession) : Event → List Mark
  | .sendFrame bytes => [.submitted bytes]
  | .io (.transmit index count) =>
      match s.writes[index]? with
      | none => []
      | some write =>
          if s.isOpen ∧ write.rest = write.frame.bytes ∧ 0 < count then
            [.transmitted write.frame]
          else []
  | _ => []

def submittedFrames (seen : List Mark) : List Wire :=
  seen.filterMap (fun
    | .submitted frame => some frame
    | .transmitted _ => none)

def transmittedFrames (seen : List Mark) : List Wire :=
  seen.filterMap (fun
    | .submitted _ => none
    | .transmitted frame => some frame)

/-- Neither a kick nor, while the socket is open, a write error. -/
def Undisturbed (s : TcpSession) : Event → Prop
  | .notifyAndClose _ _ => s.loggedIn = false
  | .io (.writeFailed _ _) => s.isOpen = false
  | _ => True

/-- The stops posted by a refusal. -/
def isRefusal : Handler → Bool
  | .stop why =>
      why = lit "high-water disconnect" || why = lit "hard-limit disconnect"
  | _ => false

def RefusalPending (s : TcpSession) : Prop :=
  ∃ handler ∈ s.posted, isRefusal handler = true

/-- The handlers the strand runs before that stop. -/
def beforeStop (s : TcpSession) : List Handler :=
  s.posted.takeWhile (fun handler => !isRefusal handler)

/-- A completion handler runs before that stop. -/
def CompletionAhead (s : TcpSession) : Prop :=
  ∃ handler ∈ s.beforeStop, (completionOf handler).isSome = true

/-- The write of a frame accepted now starts before that stop. -/
def StartsBeforeStop (s : TcpSession) : Prop :=
  s.queue = [] ∨ (s.queue.length = 1 ∧ s.CompletionAhead)

/-- A frame whose write would start between a refusal and its stop is refused
as well. -/
def KeepsOut (cfg : Config) (s : TcpSession) : Event → Prop
  | .io .runHandler => s.RefusalPending → s.StartsBeforeStop →
      ∀ handler ∈ s.posted.head?, s.Refuses cfg handler
  | _ => True

instance (s : TcpSession) : Decidable s.RefusalPending :=
  inferInstanceAs (Decidable (∃ handler ∈ s.posted, _))

instance (s : TcpSession) : Decidable s.CompletionAhead :=
  inferInstanceAs (Decidable (∃ handler ∈ s.beforeStop, _))

instance (s : TcpSession) : Decidable s.StartsBeforeStop :=
  inferInstanceAs (Decidable (_ ∨ _))

instance (s : TcpSession) : (event : Event) → Decidable (s.Undisturbed event)
  | .notifyAndClose _ _ => inferInstanceAs (Decidable (_ = _))
  | .io (.writeFailed _ _) => inferInstanceAs (Decidable (_ = _))
  | .io .runHandler => inferInstanceAs (Decidable True)
  | .io (.transmit _ _) => inferInstanceAs (Decidable True)
  | .io (.writeDone _) => inferInstanceAs (Decidable True)
  | .sendFrame _ => inferInstanceAs (Decidable True)
  | .stop _ => inferInstanceAs (Decidable True)
  | .markLogin _ _ _ => inferInstanceAs (Decidable True)
  | .closeSocket => inferInstanceAs (Decidable True)

instance (cfg : Config) (s : TcpSession) :
    (event : Event) → Decidable (s.KeepsOut cfg event)
  | .io .runHandler =>
      inferInstanceAs (Decidable (RefusalPending _ → StartsBeforeStop _ →
        ∀ handler ∈ _, _))
  | .io (.transmit _ _) => inferInstanceAs (Decidable True)
  | .io (.writeDone _) => inferInstanceAs (Decidable True)
  | .io (.writeFailed _ _) => inferInstanceAs (Decidable True)
  | .sendFrame _ => inferInstanceAs (Decidable True)
  | .notifyAndClose _ _ => inferInstanceAs (Decidable True)
  | .stop _ => inferInstanceAs (Decidable True)
  | .markLogin _ _ _ => inferInstanceAs (Decidable True)
  | .closeSocket => inferInstanceAs (Decidable True)

/-! ## The invariant -/

/-- The frame being written, once a byte of it has been handed over. -/
def begun (s : TcpSession) : List Wire :=
  (s.writes.filter (fun write =>
    write.rest ≠ write.frame.bytes)).map PendingWrite.frame ++
      s.completions.map Prod.fst

def submissionOf : Handler → Option Wire
  | .sendFrame bytes => some bytes
  | _ => none

def postedFrames (s : TcpSession) : List Wire :=
  s.posted.filterMap submissionOf

/-- How many of the frames at the head of the queue are being written or will
be before the stop of a refusal. -/
def startsLeft (s : TcpSession) : Nat :=
  if s.CompletionAhead then 2 else 1

/-- `done` are the frames written completely.  They and the queue are the
frames accepted before a refusal and those accepted after it. -/
structure Line (seen : List Mark) (s : TcpSession)
    (done early late : List Wire) : Prop where
  sent : transmittedFrames seen = done ++ s.begun
  split : done ++ s.queue = early ++ late
  submitted : early <+: submittedFrames seen
  fresh : ¬s.RefusalPending →
    late = [] ∧ submittedFrames seen = early ++ s.postedFrames
  held : late ≠ [] → done.length + s.startsLeft ≤ early.length

structure Plain (s : TcpSession) : Prop where
  running : s.stopped = false
  unkicked : s.kickPending = false
  noKick : ∀ notifyWire logWhy, Handler.kick notifyWire logWhy ∉ s.posted
  suffix : ∀ write ∈ s.writes, write.rest <:+ write.frame.bytes

/-- A session whose socket is open, in a run without kicks and write
errors. -/
structure Healthy (cfg : Config) (s : TcpSession) : Prop extends Plain s where
  clean : s.NoFailure
  accounts : s.Accounted cfg

section Flow

variable {cfg : Config} {s t : TcpSession} {seen seen' : List Mark}
  {done early late : List Wire} {handler : Handler} {later : List Handler}

theorem healthy_fresh (cfg : Config) (ip : Bytes) :
    Healthy cfg { peerIp := ip } where
  running := rfl
  unkicked := rfl
  noKick := fun _ _ hmem => absurd hmem List.not_mem_nil
  suffix := fun _ hmem => absurd hmem List.not_mem_nil
  clean := ⟨fun _ hmem => absurd hmem List.not_mem_nil, fun _ _ => rfl⟩
  accounts := accounted_fresh cfg ip

theorem line_fresh (ip : Bytes) : Line [] { peerIp := ip } [] [] [] where
  sent := rfl
  split := rfl
  submitted := List.prefix_rfl
  fresh := fun _ => ⟨rfl, rfl⟩
  held := fun hlate => absurd rfl hlate

/-! ### The order of the frames -/

theorem begun_sublist (s : TcpSession) : s.begun.Sublist s.outstanding :=
  (List.filter_sublist.map _).append (List.Sublist.refl _)

theorem begun_cases (haccounts : s.Accounted cfg)
    (hkick : s.kickPending = false) :
    s.begun = [] ∨ ∃ w todo, s.queue = w :: todo ∧ s.begun = [w] := by
  have hle : s.begun.length ≤ 1 := by
    have hsub := (begun_sublist s).length_le
    have hone := haccounts.sound.one
    omega
  cases hbegun : s.begun with
  | nil => exact .inl rfl
  | cons w rest =>
      rw [hbegun, List.length_cons] at hle
      have hrest : rest = [] := List.length_eq_zero_iff.mp (by omega)
      have hmem : w ∈ s.outstanding :=
        (begun_sublist s).subset (hbegun ▸ List.mem_cons_self)
      obtain ⟨todo, hqueue⟩ :=
        List.head?_eq_some_iff.mp (haccounts.front hkick w hmem)
      exact .inr ⟨w, todo, hqueue, by rw [hrest]⟩

theorem one_le_startsLeft (s : TcpSession) : 1 ≤ s.startsLeft := by
  unfold startsLeft
  split <;> omega

theorem startsLeft_le_length (hnot : ¬s.StartsBeforeStop) :
    s.startsLeft ≤ s.queue.length := by
  rw [StartsBeforeStop, not_or, not_and, ← List.length_eq_zero_iff] at hnot
  obtain ⟨hsome, hahead⟩ := hnot
  unfold startsLeft
  split
  · rename_i hcompletion
    have hne : s.queue.length ≠ 1 := fun hone => hahead hone hcompletion
    omega
  · omega

/-- The frames transmitted were accepted before any refusal. -/
theorem Line.noGap (hline : Line seen s done early late)
    (hhealthy : s.Healthy cfg) :
    transmittedFrames seen <+: submittedFrames seen := by
  have hcases := begun_cases hhealthy.accounts hhealthy.unkicked
  have hprefix : done ++ s.begun <+: early ++ late := by
    rw [← hline.split]
    obtain hnone | ⟨w, todo, hqueue, hone⟩ := hcases
    · rw [hnone, List.append_nil]
      exact List.prefix_append done s.queue
    · rw [hone, hqueue]
      exact ⟨todo, by simp⟩
  have hbegun : s.begun.length ≤ 1 := by
    obtain hnone | ⟨w, todo, _, hone⟩ := hcases
    · rw [hnone]
      exact Nat.zero_le 1
    · rw [hone]
      exact Nat.le_refl 1
  rw [hline.sent]
  apply List.IsPrefix.trans _ hline.submitted
  by_cases hlate : late = []
  · rw [hlate, List.append_nil] at hprefix
    exact hprefix
  · have hheld := hline.held hlate
    have hleft := one_le_startsLeft s
    apply List.prefix_of_prefix_length_le hprefix
      (List.prefix_append early late)
    rw [List.length_append]
    omega

/-! ### Posted handlers -/

theorem takeWhile_append_of_mem {α : Type} {p : α → Bool} {l : List α} {a : α}
    (ha : a ∈ l) (hp : p a = false) (l' : List α) :
    (l ++ l').takeWhile p = l.takeWhile p := by
  induction l with
  | nil => cases ha
  | cons head rest ih =>
      by_cases hhead : p head = true
      · rcases List.mem_cons.mp ha with rfl | hrest
        · exact absurd hhead (by rw [hp]; exact Bool.false_ne_true)
        · rw [List.cons_append, List.takeWhile_cons_of_pos hhead,
            List.takeWhile_cons_of_pos hhead, ih hrest]
      · rw [List.cons_append, List.takeWhile_cons_of_neg hhead,
          List.takeWhile_cons_of_neg hhead]

/-- What is posted after a refusal runs after its stop. -/
theorem startsLeft_post (hpending : s.RefusalPending) (handler : Handler) :
    (s.post handler).startsLeft = s.startsLeft := by
  obtain ⟨stop, hstop, hrefusal⟩ := hpending
  have hsame : (s.post handler).beforeStop = s.beforeStop :=
    takeWhile_append_of_mem hstop (by simp [hrefusal]) [handler]
  have hahead : (s.post handler).CompletionAhead ↔ s.CompletionAhead := by
    rw [CompletionAhead, CompletionAhead, hsame]
  exact if_congr hahead rfl rfl

theorem RefusalPending.post (hpending : s.RefusalPending)
    (handler : Handler) : (s.post handler).RefusalPending := by
  obtain ⟨stop, hstop, hrefusal⟩ := hpending
  exact ⟨stop, List.mem_append_left _ hstop, hrefusal⟩

theorem Line.pending (hline : Line seen s done early late)
    (hlate : late ≠ []) : s.RefusalPending := by
  by_contra hnot
  exact hlate (hline.fresh hnot).1

theorem Line.post (hline : Line seen s done early late)
    (hnone : completionOf handler = none)
    (hsent : transmittedFrames seen' = transmittedFrames seen)
    (hsubmitted : submittedFrames seen' =
      submittedFrames seen ++ [handler].filterMap submissionOf) :
    Line seen' (s.post handler) done early late where
  sent := by
    rw [hsent, hline.sent]
    simp [begun, completions, TcpSession.post, hnone]
  split := hline.split
  submitted := by
    rw [hsubmitted]
    exact hline.submitted.trans (List.prefix_append _ _)
  fresh := by
    intro hnot
    obtain ⟨hlate, hsame⟩ :=
      hline.fresh (fun hpending => hnot (hpending.post handler))
    refine ⟨hlate, ?_⟩
    rw [hsubmitted, hsame, List.append_assoc]
    simp only [postedFrames, TcpSession.post, List.filterMap_append]
  held := by
    intro hlate
    rw [startsLeft_post (hline.pending hlate)]
    exact hline.held hlate

/-! ### The handler at the head of the strand -/

theorem refusalPending_taken (hposted : s.posted = handler :: later)
    (hgoes : isRefusal handler = false) :
    RefusalPending { s with posted := later } ↔ s.RefusalPending := by
  unfold RefusalPending
  rw [hposted]
  simp [hgoes]

theorem beforeStop_taken (hposted : s.posted = handler :: later)
    (hgoes : isRefusal handler = false) :
    s.beforeStop =
      handler :: TcpSession.beforeStop { s with posted := later } := by
  unfold beforeStop
  rw [hposted, List.takeWhile_cons_of_pos (by rw [hgoes]; rfl)]

theorem startsLeft_taken (hposted : s.posted = handler :: later)
    (hgoes : isRefusal handler = false) :
    TcpSession.startsLeft { s with posted := later } ≤ s.startsLeft := by
  unfold startsLeft
  split
  · rename_i hahead
    obtain ⟨other, hother, hcompletion⟩ := hahead
    have hahead' : s.CompletionAhead := by
      rw [CompletionAhead, beforeStop_taken hposted hgoes]
      exact ⟨other, List.mem_cons_of_mem _ hother, hcompletion⟩
    exact Nat.le_of_eq (if_pos hahead').symm
  · exact one_le_startsLeft s

theorem startsLeft_congr (hposted : t.posted = s.posted) :
    t.startsLeft = s.startsLeft := by
  have hahead : t.CompletionAhead ↔ s.CompletionAhead := by
    rw [CompletionAhead, CompletionAhead, beforeStop, beforeStop, hposted]
  exact if_congr hahead rfl rfl

theorem refusalPending_congr (hposted : t.posted = s.posted) :
    t.RefusalPending ↔ s.RefusalPending := by
  rw [RefusalPending, RefusalPending, hposted]

theorem begun_doWrite (s : TcpSession) : s.doWrite.begun = s.begun := by
  unfold doWrite
  split
  · rfl
  split
  · rfl
  · simp only [begun, List.filter_append]
    simp [completions]

theorem begun_writeNext (s : TcpSession) : s.writeNext.begun = s.begun := by
  unfold writeNext
  split
  · rfl
  · exact begun_doWrite s

theorem handleSend_disconnect (hpolicy : cfg.onHighWater = .disconnect)
    (hrunning : s.stopped = false) (hkick : s.kickPending = false)
    {bytes : Wire} (hrefuses : s.Refuses cfg (.sendFrame bytes)) :
    ∃ why, s.handleSend cfg bytes = s.stop why ∧
      isRefusal (.stop why) = true := by
  simp only [Refuses, hkick, Bool.false_eq_true, false_or] at hrefuses
  unfold TcpSession.handleSend
  simp only [hrunning, hkick, Bool.or_self, Bool.false_eq_true, if_false]
  by_cases hhard : s.pendingBytes + bytes.bytes.length ≤
      cfg.hardLimitBytes.toNat
  · refine ⟨lit "high-water disconnect", ?_, rfl⟩
    simp [hrefuses, hhard, hpolicy]
  · refine ⟨lit "hard-limit disconnect", ?_, rfl⟩
    simp [hhard, Nat.lt_of_not_le hhard]

/-- A frame is accepted: before any refusal, or behind a frame which will not
be followed by another one before the stop. -/
theorem Line.accept (hline : Line seen s done early late) {bytes : Wire}
    (hposted : s.posted = .sendFrame bytes :: later)
    (haccepts : ¬s.Refuses cfg (.sendFrame bytes))
    (hkept : s.RefusalPending → s.StartsBeforeStop →
      s.Refuses cfg (.sendFrame bytes)) :
    ∃ early late, Line seen
      (TcpSession.enqueue bytes { s with posted := later }).writeNext
      done early late := by
  have hbegun :
      (TcpSession.enqueue bytes { s with posted := later }).writeNext.begun =
        s.begun := by
    rw [begun_writeNext]
    simp [begun, completions, hposted, completionOf, List.filterMap_cons,
      TcpSession.enqueue]
  have hqueue :
      (TcpSession.enqueue bytes { s with posted := later }).writeNext.queue =
        s.queue ++ [bytes] := writeNext_queue _
  have hlater :
      (TcpSession.enqueue bytes { s with posted := later }).writeNext.posted =
        later := writeNext_posted _
  generalize (TcpSession.enqueue bytes
    { s with posted := later }).writeNext = t at hbegun hqueue hlater ⊢
  have hpending : t.RefusalPending ↔ s.RefusalPending :=
    (refusalPending_congr (s := { s with posted := later }) hlater).trans
      (refusalPending_taken hposted rfl)
  have hleft : t.startsLeft ≤ s.startsLeft := by
    rw [startsLeft_congr (s := { s with posted := later }) hlater]
    exact startsLeft_taken hposted rfl
  have hframes : s.postedFrames = bytes :: t.postedFrames := by
    simp [postedFrames, hposted, hlater, submissionOf]
  have hsent : transmittedFrames seen = done ++ t.begun := by
    rw [hbegun]
    exact hline.sent
  have hsplit : done ++ t.queue = early ++ late ++ [bytes] := by
    rw [hqueue, ← List.append_assoc, hline.split]
  by_cases hrefused : s.RefusalPending
  · refine ⟨early, late ++ [bytes], hsent, ?_, hline.submitted, ?_, ?_⟩
    · rw [hsplit, List.append_assoc]
    · exact fun hnot => absurd (hpending.mpr hrefused) hnot
    · intro _
      by_cases hlate : late = []
      · have hlength := congrArg List.length hline.split
        rw [hlate, List.append_nil, List.length_append] at hlength
        have hqueued := startsLeft_le_length
          fun hstarts => haccepts (hkept hrefused hstarts)
        omega
      · have hheld := hline.held hlate
        omega
  · obtain ⟨hlate, hsubmitted⟩ := hline.fresh hrefused
    rw [hframes] at hsubmitted
    refine ⟨early ++ [bytes], [], hsent, ?_, ?_, ?_, ?_⟩
    · rw [hsplit, hlate]
      simp
    · rw [hsubmitted]
      exact ⟨t.postedFrames, by simp⟩
    · intro _
      refine ⟨rfl, ?_⟩
      rw [hsubmitted]
      simp
    · exact fun hnil => absurd rfl hnil

theorem Line.handleSend (hline : Line seen s done early late)
    (hpolicy : cfg.onHighWater = .disconnect) (hhealthy : s.Healthy cfg)
    {bytes : Wire} (hposted : s.posted = .sendFrame bytes :: later)
    (hkept : s.RefusalPending → s.StartsBeforeStop →
      s.Refuses cfg (.sendFrame bytes)) :
    ∃ early late, Line seen ({ s with posted := later }.handleSend cfg bytes)
      done early late := by
  have hcompletions : completions { s with posted := later } =
      s.completions := by
    simp [completions, hposted, completionOf, List.filterMap_cons]
  have hbegun : begun { s with posted := later } = s.begun := by
    rw [begun, begun, hcompletions]
  have hleft := startsLeft_taken hposted rfl
  by_cases hrefuses : s.Refuses cfg (.sendFrame bytes)
  · obtain ⟨why, hstop, hrefusal⟩ := handleSend_disconnect
      (s := { s with posted := later }) hpolicy hhealthy.running
      hhealthy.unkicked hrefuses
    rw [hstop]
    refine ⟨early, late, ?_, hline.split, hline.submitted, ?_, ?_⟩
    · rw [hline.sent, ← hbegun]
      simp [begun, completions, TcpSession.stop, TcpSession.post,
        completionOf]
    · intro hnot
      exact absurd ⟨.stop why, List.mem_append_right _
        (List.mem_singleton_self _), hrefusal⟩ hnot
    · intro hlate
      have hpending := (refusalPending_taken hposted rfl).mpr
        (hline.pending hlate)
      have hheld := hline.held hlate
      rw [TcpSession.stop, startsLeft_post hpending]
      omega
  · obtain ⟨_, haccepted⟩ := handleSend_accepted
      (s := { s with posted := later }) hhealthy.running hrefuses
    rw [haccepted]
    exact hline.accept hposted hrefuses hkept

theorem Line.handleWritten (hline : Line seen s done early late)
    (hhealthy : s.Healthy cfg) {bytes : Wire}
    (hposted : s.posted = .written bytes none :: later) :
    Line seen ({ s with posted := later }.handleWritten bytes none)
      (done ++ [bytes]) early late := by
  obtain ⟨hone, hnone⟩ := hhealthy.accounts.completion hposted
  have hfront := hhealthy.accounts.front hhealthy.unkicked bytes
    (hone ▸ List.mem_singleton_self bytes)
  obtain ⟨todo, hqueue⟩ := List.head?_eq_some_iff.mp hfront
  rw [outstanding, List.append_eq_nil_iff, List.map_eq_nil_iff] at hnone
  have hwrites : s.writes = [] := hnone.1
  have hcompletions : later.filterMap completionOf = [] :=
    List.map_eq_nil_iff.mp hnone.2
  have hwritten : { s with posted := later }.handleWritten bytes none =
      (TcpSession.popWritten bytes { s with posted := later }).doWrite := by
    simp [TcpSession.handleWritten, hhealthy.unkicked]
  have hbegun : s.begun = [bytes] := by
    simp [begun, completions, hposted, completionOf, hwrites, hcompletions]
  have hbegun' : (TcpSession.popWritten bytes
      { s with posted := later }).doWrite.begun = [] := by
    rw [begun_doWrite]
    simp [begun, completions, TcpSession.popWritten, hwrites, hcompletions]
  have hlater : (TcpSession.popWritten bytes
      { s with posted := later }).doWrite.posted = later := doWrite_posted _
  have hqueue' : (TcpSession.popWritten bytes
      { s with posted := later }).doWrite.queue = todo := by
    rw [doWrite_queue]
    simp [TcpSession.popWritten, hqueue]
  rw [hwritten]
  generalize (TcpSession.popWritten bytes { s with posted := later }).doWrite =
    t at hbegun' hlater hqueue' ⊢
  have hpending : t.RefusalPending ↔ s.RefusalPending :=
    (refusalPending_congr (s := { s with posted := later }) hlater).trans
      (refusalPending_taken hposted rfl)
  constructor
  · rw [hline.sent, hbegun, hbegun', List.append_nil]
  · rw [hqueue', ← hline.split, hqueue, List.append_assoc]
    rfl
  · exact hline.submitted
  · intro hnot
    obtain ⟨hlate, hsubmitted⟩ := hline.fresh (mt hpending.mpr hnot)
    refine ⟨hlate, ?_⟩
    rw [hsubmitted, postedFrames, postedFrames, hposted, hlater]
    rfl
  · intro hlate
    have hheld := hline.held hlate
    have htwo : s.startsLeft = 2 := by
      refine if_pos ⟨.written bytes none, ?_, rfl⟩
      rw [beforeStop_taken hposted rfl]
      exact List.mem_cons_self
    have hnone : t.startsLeft = 1 := by
      refine if_neg ?_
      rintro ⟨handler, hhandler, hcompletion⟩
      have hmem := (List.takeWhile_sublist _).subset hhandler
      rw [hlater] at hmem
      obtain ⟨completion, hsome⟩ := Option.isSome_iff_exists.mp hcompletion
      have hfound : completion ∈ later.filterMap completionOf :=
        List.mem_filterMap.mpr ⟨handler, hmem, hsome⟩
      rw [hcompletions] at hfound
      cases hfound
    rw [List.length_append, List.length_singleton]
    omega

/-! ### The write in progress -/

theorem begun_of_writes (write : PendingWrite) (hwrites : s.writes = [write])
    (hcompletions : s.completions = []) :
    s.begun =
      if write.rest = write.frame.bytes then [] else [write.frame] := by
  rw [begun, hwrites, hcompletions]
  by_cases hfirst : write.rest = write.frame.bytes
  · simp [hfirst]
  · simp [hfirst]

theorem drop_eq_iff {rest frame : Bytes} (hsuffix : rest <:+ frame)
    (hframe : 0 < frame.length) (count : Nat) :
    rest.drop count = frame ↔ rest = frame ∧ count = 0 := by
  constructor
  · intro hdrop
    have hlength := congrArg List.length hdrop
    have hle := hsuffix.length_le
    rw [List.length_drop] at hlength
    have hzero : count = 0 := by omega
    rw [hzero, List.drop_zero] at hdrop
    exact ⟨hdrop, hzero⟩
  · rintro ⟨hrest, hzero⟩
    rw [hzero, List.drop_zero]
    exact hrest

theorem Line.transmit (hline : Line seen s done early late)
    (hhealthy : s.Healthy cfg) (hopen : s.isOpen = true) {write : PendingWrite}
    {index : Nat} (count : Nat) (hwrite : s.writes[index]? = some write) :
    Line (seen ++ s.marks (.io (.transmit index count)))
      { s with
        writes := s.writes.set index
          { write with rest := write.rest.drop count }
        output := s.output ++ write.rest.take count } done early late := by
  obtain ⟨rfl, hwrites, hcompletions⟩ :=
    hhealthy.accounts.writes_getElem hwrite
  have hsuffix := hhealthy.suffix write
    (by rw [hwrites]; exact List.mem_singleton_self write)
  have hframe : 0 < write.frame.bytes.length := by
    rw [write.frame.bytes_length]
    omega
  have hbefore := begun_of_writes write hwrites hcompletions
  have hafter : begun { s with
      writes := s.writes.set 0 { write with rest := write.rest.drop count }
      output := s.output ++ write.rest.take count } =
      if write.rest.drop count = write.frame.bytes then []
      else [write.frame] :=
    begun_of_writes { write with rest := write.rest.drop count }
      (by simp [hwrites]) hcompletions
  have hmarks : s.marks (.io (.transmit 0 count)) =
      if write.rest = write.frame.bytes ∧ 0 < count then
        [.transmitted write.frame]
      else [] := by
    simp [marks, hwrites, hopen]
  have hsubmitted : submittedFrames
      (seen ++ s.marks (.io (.transmit 0 count))) = submittedFrames seen := by
    rw [hmarks, submittedFrames, List.filterMap_append]
    split
    · exact List.append_nil _
    · exact List.append_nil _
  constructor
  · rw [hafter, hmarks, transmittedFrames, List.filterMap_append]
    have hsent := hline.sent
    rw [hbefore, transmittedFrames] at hsent
    rw [hsent]
    simp only [drop_eq_iff hsuffix hframe]
    by_cases hfirst : write.rest = write.frame.bytes
    · by_cases hcount : count = 0
      · simp [hfirst, hcount]
      · simp [hfirst, hcount, Nat.pos_of_ne_zero hcount]
    · simp [hfirst]
  · exact hline.split
  · rw [hsubmitted]
    exact hline.submitted
  · rw [hsubmitted]
    exact hline.fresh
  · exact hline.held

theorem Line.writeDone (hline : Line seen s done early late)
    (hhealthy : s.Healthy cfg) {write : PendingWrite} {index : Nat}
    (hwrite : s.writes[index]? = some write) (hrest : write.rest = []) :
    Line seen (TcpSession.post (.written write.frame none)
      { s with writes := s.writes.eraseIdx index }) done early late := by
  obtain ⟨rfl, hwrites, hcompletions⟩ :=
    hhealthy.accounts.writes_getElem hwrite
  have hframe : write.rest ≠ write.frame.bytes := by
    intro hsame
    have hlength := congrArg List.length hsame
    rw [hrest, write.frame.bytes_length, List.length_nil] at hlength
    omega
  have hbefore := begun_of_writes write hwrites hcompletions
  rw [if_neg hframe] at hbefore
  have hposted : s.posted.filterMap completionOf = [] := hcompletions
  constructor
  · rw [hline.sent, hbefore]
    simp [begun, completions, TcpSession.post, hwrites, hposted,
      completionOf]
  · exact hline.split
  · exact hline.submitted
  · intro hnot
    obtain ⟨hlate, hsubmitted⟩ := hline.fresh
      (fun hpending => hnot (RefusalPending.post hpending _))
    refine ⟨hlate, ?_⟩
    rw [hsubmitted]
    simp [postedFrames, TcpSession.post, submissionOf]
  · intro hlate
    have hpending : RefusalPending
        { s with writes := s.writes.eraseIdx 0 } := hline.pending hlate
    rw [startsLeft_post hpending]
    exact hline.held hlate

/-! ### Steps and runs -/

theorem Plain.post (hplain : s.Plain) (handler : Handler)
    (hother : ∀ notifyWire logWhy, handler ≠ .kick notifyWire logWhy) :
    (s.post handler).Plain where
  running := hplain.running
  unkicked := hplain.unkicked
  suffix := hplain.suffix
  noKick := by
    intro notifyWire logWhy hmem
    rcases List.mem_append.mp hmem with hold | hnew
    · exact hplain.noKick notifyWire logWhy hold
    · exact hother notifyWire logWhy (List.mem_singleton.mp hnew).symm

theorem Plain.frame (hplain : s.Plain) (hstopped : t.stopped = s.stopped)
    (hkick : t.kickPending = s.kickPending) (hposted : t.posted ⊆ s.posted)
    (hwrites : t.writes = s.writes) : t.Plain where
  running := hstopped.trans hplain.running
  unkicked := hkick.trans hplain.unkicked
  noKick := fun notifyWire logWhy hmem =>
    hplain.noKick notifyWire logWhy (hposted hmem)
  suffix := by
    rw [hwrites]
    exact hplain.suffix

theorem Plain.doWrite (hplain : s.Plain) : s.doWrite.Plain where
  running := (doWrite_stopped s).trans hplain.running
  unkicked := (doWrite_kickPending s).trans hplain.unkicked
  noKick := by
    rw [doWrite_posted]
    exact hplain.noKick
  suffix := by
    unfold TcpSession.doWrite
    split
    · exact hplain.suffix
    split
    · exact hplain.suffix
    · intro write hwrite
      rcases List.mem_append.mp hwrite with hold | hnew
      · exact hplain.suffix write hold
      · have hfresh := List.mem_singleton.mp hnew
        subst hfresh
        exact List.suffix_rfl

theorem Plain.writeNext (hplain : s.Plain) : s.writeNext.Plain := by
  unfold TcpSession.writeNext
  split
  · exact hplain
  · exact hplain.doWrite

theorem Plain.handleSend (hplain : s.Plain) (bytes : Wire) :
    (s.handleSend cfg bytes).Plain := by
  by_cases hrefuses : s.Refuses cfg (.sendFrame bytes)
  · obtain hsame | ⟨why, hstop⟩ | hlogged :=
      handleSend_refused (Or.inr hrefuses)
    · rw [hsame]
      exact hplain
    · rw [hstop]
      exact hplain.post _ (fun _ _ heq => by cases heq)
    · rw [hlogged]
      exact hplain.frame rfl rfl (List.Subset.refl _) rfl
  · obtain ⟨_, haccepted⟩ := handleSend_accepted hplain.running hrefuses
    rw [haccepted]
    apply Plain.writeNext
    exact hplain.frame rfl rfl (List.Subset.refl _) rfl

theorem Healthy.handle (hhealthy : s.Healthy cfg)
    (hposted : s.posted = handler :: later)
    (hopen : ({ s with posted := later }.handle cfg handler).isOpen = true) :
    ({ s with posted := later }.handle cfg handler).Plain := by
  have htaken : Plain { s with posted := later } := by
    refine hhealthy.toPlain.frame rfl rfl ?_ rfl
    rw [hposted]
    exact List.subset_cons_self handler later
  cases handler with
  | sendFrame bytes => exact htaken.handleSend bytes
  | kick notifyWire logWhy =>
      have hmem : Handler.kick notifyWire logWhy ∈ s.posted := by
        rw [hposted]
        exact List.mem_cons_self
      exact absurd hmem (hhealthy.noKick notifyWire logWhy)
  | stop why =>
      simp [TcpSession.handle, TcpSession.handleStop, hhealthy.running]
        at hopen
  | written bytes ec =>
      have hsuccess := hhealthy.clean.success (bytes, ec)
        (by simp [completions, hposted, completionOf])
      dsimp only at hsuccess
      subst hsuccess
      have hwritten : TcpSession.handle cfg (.written bytes none)
          { s with posted := later } = (TcpSession.popWritten bytes
            { s with posted := later }).doWrite := by
        simp [TcpSession.handle, TcpSession.handleWritten,
          hhealthy.unkicked]
      rw [hwritten]
      apply Plain.doWrite
      exact htaken.frame rfl rfl (List.Subset.refl _) rfl

theorem isOpen_of_handle (hopen : (s.handle cfg handler).isOpen = true) :
    s.isOpen = true := by
  cases handler with
  | sendFrame bytes => exact (handleSend_flags cfg s bytes).2.2.1 ▸ hopen
  | kick notifyWire logWhy =>
      simp only [TcpSession.handle, TcpSession.handleKick] at hopen
      split at hopen
      · exact hopen
      · rw [writeNext_isOpen] at hopen
        exact hopen
  | stop why =>
      simp only [TcpSession.handle, TcpSession.handleStop] at hopen
      split at hopen
      · exact hopen
      · cases hopen
  | written bytes ec =>
      cases ec with
      | some message => exact hopen
      | none =>
          simp only [TcpSession.handle, TcpSession.handleWritten] at hopen
          split at hopen
          · cases hopen
          · rw [doWrite_isOpen] at hopen
            exact hopen

theorem Healthy.step (hhealthy : s.Healthy cfg) {event : Event}
    (hclean : s.Undisturbed event) (hstep : s.step cfg event = some t)
    (hopen : t.isOpen = true) : t.Healthy cfg := by
  have hplain : t.Plain ∧ event.isWriteError = false := by
    cases event with
    | sendFrame bytes =>
        cases hstep
        exact ⟨hhealthy.toPlain.post _ (fun _ _ heq => by cases heq), rfl⟩
    | stop why =>
        cases hstep
        exact ⟨hhealthy.toPlain.post _ (fun _ _ heq => by cases heq), rfl⟩
    | notifyAndClose userReason logWhy =>
        cases hstep
        have hlogged : s.loggedIn = false := hclean
        rw [TcpSession.notifyAndClose, if_neg (by simp [hlogged])]
        exact ⟨hhealthy.toPlain.post _ (fun _ _ heq => by cases heq), rfl⟩
    | markLogin uid isAdmin username =>
        cases hstep
        exact ⟨hhealthy.toPlain.frame rfl rfl (List.Subset.refl _) rfl, rfl⟩
    | closeSocket =>
        cases hstep
        cases hopen
    | io event =>
        obtain ⟨handler, later, rfl, hposted, rfl⟩ |
          ⟨index, count, write, rfl, hwrite, _, rfl⟩ |
          ⟨index, write, rfl, hwrite, _, rfl⟩ |
          ⟨index, write, message, rfl, hwrite, _, rfl⟩ := ioStep_cases hstep
        · exact ⟨hhealthy.handle hposted hopen, rfl⟩
        · refine ⟨⟨hhealthy.running, hhealthy.unkicked, hhealthy.noKick, ?_⟩,
            rfl⟩
          intro other hother
          rcases List.mem_or_eq_of_mem_set hother with hold | rfl
          · exact hhealthy.suffix other hold
          · exact (List.drop_suffix count write.rest).trans
              (hhealthy.suffix write (List.mem_of_getElem? hwrite))
        · have herased : Plain { s with writes := s.writes.eraseIdx index } :=
            ⟨hhealthy.running, hhealthy.unkicked, hhealthy.noKick,
              fun other hother =>
                hhealthy.suffix other (List.mem_of_mem_eraseIdx hother)⟩
          exact ⟨herased.post _ (fun _ _ heq => by cases heq), rfl⟩
        · have hclosed : s.isOpen = false := hclean
          cases hopen.symm.trans hclosed
  exact ⟨hplain.1, hhealthy.clean.step hplain.2 hstep,
    hhealthy.accounts.step hstep hplain.1.running⟩

theorem isOpen_of_step {event : Event} (hstep : s.step cfg event = some t)
    (hopen : t.isOpen = true) : s.isOpen = true := by
  cases event with
  | sendFrame bytes =>
      cases hstep
      exact hopen
  | stop why =>
      cases hstep
      exact hopen
  | notifyAndClose userReason logWhy =>
      cases hstep
      unfold TcpSession.notifyAndClose at hopen
      split at hopen
      · exact hopen
      · exact hopen
  | markLogin uid isAdmin username =>
      cases hstep
      exact hopen
  | closeSocket =>
      cases hstep
      cases hopen
  | io event =>
      obtain ⟨handler, later, rfl, hposted, rfl⟩ |
        ⟨index, count, write, rfl, hwrite, _, rfl⟩ |
        ⟨index, write, rfl, hwrite, _, rfl⟩ |
        ⟨index, write, message, rfl, hwrite, _, rfl⟩ := ioStep_cases hstep
      · exact isOpen_of_handle (s := { s with posted := later }) hopen
      · exact hopen
      · exact hopen
      · exact hopen

theorem transmitted_of_closed {event : Event}
    (hstep : s.step cfg event = some t) (hclosed : t.isOpen = false) :
    transmittedFrames (s.marks event) = [] := by
  cases event with
  | io event =>
      cases event with
      | transmit index count =>
          have hio : s.ioStep cfg (.transmit index count) = some t := hstep
          obtain ⟨_, _, heq, _⟩ | ⟨_, _, write, heq, hwrite, hopen, rfl⟩ |
            ⟨_, _, heq, _⟩ | ⟨_, _, _, heq, _⟩ := ioStep_cases hio
          · cases heq
          · cases hopen.symm.trans hclosed
          · cases heq
          · cases heq
      | _ => rfl
  | _ => rfl

theorem submittedFrames_append (first second : List Mark) :
    submittedFrames (first ++ second) =
      submittedFrames first ++ submittedFrames second :=
  List.filterMap_append

theorem transmittedFrames_append (first second : List Mark) :
    transmittedFrames (first ++ second) =
      transmittedFrames first ++ transmittedFrames second :=
  List.filterMap_append

theorem Line.step (hline : Line seen s done early late)
    (hpolicy : cfg.onHighWater = .disconnect) (hhealthy : s.Healthy cfg)
    {event : Event} (hclean : s.Undisturbed event)
    (hkept : s.KeepsOut cfg event) (hstep : s.step cfg event = some t)
    (hopen : t.isOpen = true) :
    ∃ done early late, Line (seen ++ s.marks event) t done early late := by
  cases event with
  | sendFrame bytes =>
      cases hstep
      refine ⟨done, early, late, hline.post rfl ?_ ?_⟩
      · rw [transmittedFrames_append]
        exact List.append_nil _
      · rw [submittedFrames_append]
        rfl
  | stop why =>
      cases hstep
      rw [show s.marks (.stop why) = [] from rfl, List.append_nil]
      exact ⟨done, early, late, hline.post rfl rfl (List.append_nil _).symm⟩
  | notifyAndClose userReason logWhy =>
      cases hstep
      have hlogged : s.loggedIn = false := hclean
      rw [TcpSession.notifyAndClose, if_neg (by simp [hlogged]),
        show s.marks (.notifyAndClose userReason logWhy) = [] from rfl,
        List.append_nil]
      exact ⟨done, early, late, hline.post rfl rfl (List.append_nil _).symm⟩
  | markLogin uid isAdmin username =>
      cases hstep
      rw [show s.marks (.markLogin uid isAdmin username) = [] from rfl,
        List.append_nil]
      exact ⟨done, early, late, hline.sent, hline.split, hline.submitted,
        hline.fresh, hline.held⟩
  | closeSocket =>
      cases hstep
      cases hopen
  | io event =>
      obtain ⟨handler, later, rfl, hposted, rfl⟩ |
        ⟨index, count, write, rfl, hwrite, hopen', rfl⟩ |
        ⟨index, write, rfl, hwrite, hrest, rfl⟩ |
        ⟨index, write, message, rfl, hwrite, _, rfl⟩ := ioStep_cases hstep
      · rw [show s.marks (.io .runHandler) = [] from rfl, List.append_nil]
        cases handler with
        | sendFrame bytes =>
            obtain ⟨early, late, hline'⟩ := hline.handleSend hpolicy hhealthy
              hposted (fun hpending hstarts => hkept hpending hstarts _
                (by rw [hposted]; rfl))
            exact ⟨done, early, late, hline'⟩
        | kick notifyWire logWhy =>
            have hmem : Handler.kick notifyWire logWhy ∈ s.posted := by
              rw [hposted]
              exact List.mem_cons_self
            exact absurd hmem (hhealthy.noKick notifyWire logWhy)
        | stop why =>
            simp [TcpSession.handle, TcpSession.handleStop,
              hhealthy.running] at hopen
        | written bytes ec =>
            have hsuccess := hhealthy.clean.success (bytes, ec)
              (by simp [completions, hposted, completionOf])
            dsimp only at hsuccess
            subst hsuccess
            exact ⟨done ++ [bytes], early, late,
              hline.handleWritten hhealthy hposted⟩
      · exact ⟨done, early, late,
          hline.transmit hhealthy hopen' count hwrite⟩
      · rw [show s.marks (.io (.writeDone index)) = [] from rfl,
          List.append_nil]
        exact ⟨done, early, late, hline.writeDone hhealthy hwrite hrest⟩
      · have hclosed : s.isOpen = false := hclean
        cases hopen.symm.trans hclosed

end Flow

def Gapless (cfg : Config) (seen : List Mark) (s : TcpSession) : Prop :=
  transmittedFrames seen <+: submittedFrames seen ∧
    (s.isOpen = true → s.Healthy cfg ∧
      ∃ done early late, Line seen s done early late)

theorem Gapless.step {cfg : Config} {s t : TcpSession} {seen : List Mark}
    (hgapless : Gapless cfg seen s) (hpolicy : cfg.onHighWater = .disconnect)
    {event : Event} (hclean : s.Undisturbed event)
    (hkept : s.KeepsOut cfg event) (hstep : s.step cfg event = some t) :
    Gapless cfg (seen ++ s.marks event) t := by
  cases hopen : t.isOpen with
  | true =>
      obtain ⟨hhealthy, done, early, late, hline⟩ :=
        hgapless.2 (isOpen_of_step hstep hopen)
      have hhealthy' := hhealthy.step hclean hstep hopen
      obtain ⟨done', early', late', hline'⟩ :=
        hline.step hpolicy hhealthy hclean hkept hstep hopen
      exact ⟨hline'.noGap hhealthy',
        fun _ => ⟨hhealthy', done', early', late', hline'⟩⟩
  | false =>
      refine ⟨?_, fun hopen' => by rw [hopen] at hopen'; cases hopen'⟩
      rw [transmittedFrames_append, submittedFrames_append,
        transmitted_of_closed hstep hopen, List.append_nil]
      exact hgapless.1.trans (List.prefix_append _ _)

/-- With the policy `disconnect`, in a run without kicks and write errors in
which no write of a frame starts between the refusal of another and its stop,
the frames transmitted are a prefix of the frames submitted. -/
theorem transmitted_prefix_submitted (cfg : Config)
    (hpolicy : cfg.onHighWater = .disconnect) (ip : Bytes)
    (events : List Event) (s : TcpSession)
    (hclean : Transition.Along (step cfg) Undisturbed events { peerIp := ip })
    (hkept : Transition.Along (step cfg) (KeepsOut cfg) events
      { peerIp := ip })
    (hrun : Transition.run (step cfg) events { peerIp := ip } = some s) :
    transmittedFrames (Transition.observe (step cfg) marks events
        { peerIp := ip }) <+:
      submittedFrames (Transition.observe (step cfg) marks events
        { peerIp := ip }) := by
  have hfresh : Gapless cfg [] { peerIp := ip } :=
    ⟨List.prefix_rfl, fun _ => ⟨healthy_fresh cfg ip, [], [], [],
      line_fresh ip⟩⟩
  have hgapless : Gapless cfg ([] ++ Transition.observe (step cfg) marks
      events { peerIp := ip }) s := by
    refine Transition.observe_preserves_along (Gapless cfg) ?_ hfresh
      (hclean.and hkept) hrun
    intro seen state event next hbefore hgood hstep
    exact hbefore.step hpolicy hgood.1 hgood.2 hstep
  exact hgapless.1

def smallQueueJson : Config where
  toRawConfig :=
    { forwarderJson.toRawConfig with
      highWaterBytes := 60
      hardLimitBytes := 60
      onHighWater := .disconnect }
  accepted := rfl

/-- The third frame is refused, and the stop runs before anything else. -/
def refusedRun : List Event :=
  [.sendFrame ⟨kMsgDeliver, 1, []⟩, .sendFrame ⟨kMsgDeliver, 2, []⟩,
    .sendFrame ⟨kMsgDeliver, 3, []⟩, .io .runHandler, .io .runHandler,
    .io (.transmit 0 24), .io .runHandler, .io .runHandler]

theorem transmitted_prefix_submitted_refusedRun :
    ∃ s, Transition.run (step smallQueueJson) refusedRun {} = some s ∧
      s.stopped = true ∧
      transmittedFrames
          (Transition.observe (step smallQueueJson) marks refusedRun {}) <+:
        submittedFrames
          (Transition.observe (step smallQueueJson) marks refusedRun {}) := by
  obtain ⟨s, hrun, hstopped⟩ : ∃ s,
      Transition.run (step smallQueueJson) refusedRun {} = some s ∧
      s.stopped = true :=
    Transition.exists_run_of_check (by decide +kernel)
  exact ⟨s, hrun, hstopped,
    transmitted_prefix_submitted smallQueueJson rfl [] refusedRun s
      (Transition.along_of_check (by decide +kernel))
      (Transition.along_of_check (by decide +kernel)) hrun⟩

/-- A frame of 76 bytes is refused, and one of 24 bytes behind it on the
strand is not. -/
def gapRun : List Event :=
  [.sendFrame ⟨kMsgDeliver, 1, [.str (List.replicate 50 0)]⟩,
    .sendFrame ⟨kMsgDeliver, 2, []⟩, .io .runHandler, .io .runHandler,
    .io (.transmit 0 24)]

theorem smaller_frame_slips_through :
    (∃ s, Transition.run (step smallQueueJson) gapRun {} = some s ∧
      s.isOpen = true) ∧
    smallQueueJson.onHighWater = .disconnect ∧
    Transition.Along (step smallQueueJson) Undisturbed gapRun {} ∧
    ¬transmittedFrames
          (Transition.observe (step smallQueueJson) marks gapRun {}) <+:
        submittedFrames
          (Transition.observe (step smallQueueJson) marks gapRun {}) := by
  refine ⟨Transition.exists_run_of_check (by decide +kernel), rfl,
    Transition.along_of_check (by decide +kernel), ?_⟩
  have htransmitted : transmittedFrames
      (Transition.observe (step smallQueueJson) marks gapRun {}) =
        [⟨kMsgDeliver, 2, []⟩] := by
    decide +kernel
  have hsubmitted : submittedFrames
      (Transition.observe (step smallQueueJson) marks gapRun {}) =
        [⟨kMsgDeliver, 1, [.str (List.replicate 50 0)]⟩,
          ⟨kMsgDeliver, 2, []⟩] := by
    decide +kernel
  rw [htransmitted, hsubmitted]
  decide +kernel

end TcpSession

end AsioForwarder
