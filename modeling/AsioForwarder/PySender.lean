import AsioForwarder.FrameIo
import AsioForwarder.SequenceNumbers
import AsioForwarder.TransitionRun
import Mathlib.Data.List.AList

/-!
# The sender of the Python client

Every method of `relay_client.py` packs a frame and gives it to `sendall`,
which sends it in as many parts as the socket takes.  No lock is held
meanwhile, so the parts of several threads mix, and when `sendall` raises, the
socket keeps what has been sent: the heartbeat loop passes over the exception,
and the next frame follows half a frame.
-/

namespace AsioForwarder

namespace ForwarderWire

/-- `pack_header`; the fields are masked to 32 bits. -/
def packHeader (bodyLen msgType seq : Nat) : Bytes :=
  ({ bodyLen := UInt32.ofNat bodyLen
     msgType := UInt32.ofNat msgType
     seq := UInt32.ofNat seq } : Header).packLe

/-- `pack_frame_msgpack`; `packb` is `msgpack.packb(obj, use_bin_type=True)`,
and `none` is an exception. -/
def packFrameMsgpack (packb : Obj → Option Bytes) (obj : Obj)
    (msgType seq : Nat) : Option Bytes :=
  (packb obj).map (fun body => packHeader body.length msgType seq ++ body)

end ForwarderWire

open Transition (run Along run_preserves along_of_check exists_run_of_check)

namespace PyRelayClient

/-! ## The calls -/

inductive Call where
  | login (username password peerRole recvMode : Bytes)
  | heartbeat
  | sendData (dstUsername payload : Bytes)
  | sendDataObj (dstUsername : Bytes) (obj : Obj)
  | controlListUsers
  | controlKickUser (targetUserId : Int)

def integer : Int → Obj
  | .ofNat n => .positiveInteger n
  | .negSucc n => .negativeInteger (n + 1)

/-- The object a method packs and its message type; `send_data_obj` packs its
payload first, which may raise. -/
def Call.message (packb : Obj → Option Bytes) : Call → Option (Obj × Nat)
  | .login username password peerRole recvMode =>
      let peerRole :=
        if peerRole = lit "user" ∨ peerRole = lit "admin" then peerRole
        else lit "user"
      let recvMode :=
        if recvMode = lit "broadcast" ∨ recvMode = lit "round_robin" ∨
            recvMode = lit "roundrobin" then recvMode
        else lit "broadcast"
      some (.map [(.str (lit "username"), .str username),
        (.str (lit "password"), .str password),
        (.str (lit "peer_role"), .str peerRole),
        (.str (lit "recv_mode"), .str recvMode)], 1)
  | .heartbeat => some (.map [], 2)
  | .sendData dstUsername payload =>
      some (.map [(.str (lit "dst_username"), .str dstUsername),
        (.str (lit "payload"), .bin payload)], 4)
  | .sendDataObj dstUsername obj =>
      (packb obj).map (fun payload =>
        (.map [(.str (lit "dst_username"), .str dstUsername),
          (.str (lit "payload"), .bin payload)], 4))
  | .controlListUsers =>
      some (.map [(.str (lit "action"), .str (lit "list_users"))], 3)
  | .controlKickUser targetUserId =>
      some (.map [(.str (lit "action"), .str (lit "kick_user")),
        (.str (lit "target_user_id"), integer targetUserId)], 3)

def Call.isLogin : Call → Bool
  | .login _ _ _ _ => true
  | _ => false

inductive Thread where
  | caller (n : Nat)
  | heartbeat
  deriving DecidableEq

/-- A call inside `sendall`. -/
structure Sending where
  isLogin : Bool
  frame : Bytes
  sent : Nat

/-- A connected `RelayClient`.  `submitted` are the frames given to `sendall`,
and `torn` says that a `sendall` has raised in the middle of its frame. -/
structure Sender where
  connected : Bool := true
  loggedIn : Bool := false
  hbStarted : Bool := false
  seq : Nat := 1
  sending : AList (fun _ : Thread => Sending) := ∅
  written : Bytes := []
  submitted : List Bytes := []
  torn : Bool := false

inductive SendEvent where
  | call (n : Nat) (made : Call)
  | beat
  | send (t : Thread) (count : Nat)
  | raise (t : Thread)
  | noteLogin
  | close

namespace Sender

/-- `_next_seq` and the part of `_send_msgpack` before `sendall`. -/
def sendMsgpack (packb : Obj → Option Bytes) (t : Thread) (isLogin : Bool)
    (obj : Obj) (msgType : Nat) (s : Sender) : Sender :=
  let s := { s with seq := nextSeq s.seq }
  if s.connected then
    match ForwarderWire.packFrameMsgpack packb obj msgType s.seq with
    | none => s
    | some frame =>
        { s with
          sending := s.sending.insert t ⟨isLogin, frame, 0⟩
          submitted := s.submitted ++ [frame] }
  else s

/-- A method call up to `sendall`; `login` looks at `_sock` first. -/
def start (packb : Obj → Option Bytes) (t : Thread) (made : Call)
    (s : Sender) : Sender :=
  if made.isLogin ∧ ¬s.connected then s
  else
    match made.message packb with
    | none => s
    | some (obj, msgType) => s.sendMsgpack packb t made.isLogin obj msgType

/-- The socket takes `count` more bytes of a frame.  After the last one
`sendall` returns, and `login` starts the heartbeat thread. -/
def progress (t : Thread) (x : Sending) (count : Nat) (s : Sender) : Sender :=
  let s := { s with written := s.written ++ (x.frame.drop x.sent).take count }
  if x.sent + count < x.frame.length then
    { s with sending := s.sending.insert t { x with sent := x.sent + count } }
  else
    { s with
      sending := s.sending.erase t
      hbStarted := s.hbStarted || x.isLogin }

/-- `sendall` raises: the exception ends the call, or `_hb_loop` passes over
it. -/
def giveUp (t : Thread) (x : Sending) (s : Sender) : Sender :=
  { s with
    sending := s.sending.erase t
    torn := s.torn || decide (0 < x.sent) }

/-- `hbOn` says that `hb_interval_s` is a positive number. -/
def step (packb : Obj → Option Bytes) (hbOn : Bool) (s : Sender) :
    SendEvent → Option Sender
  | .call n made =>
      match s.sending.lookup (.caller n) with
      | some _ => none
      | none => some (s.start packb (.caller n) made)
  | .beat =>
      match s.sending.lookup .heartbeat with
      | some _ => none
      | none =>
          if s.hbStarted && s.loggedIn && s.connected && hbOn then
            some (s.start packb .heartbeat .heartbeat)
          else none
  | .send t count =>
      match s.sending.lookup t with
      | none => none
      | some x =>
          if s.connected ∧ 0 < count ∧ x.sent + count ≤ x.frame.length then
            some (s.progress t x count)
          else none
  | .raise t =>
      match s.sending.lookup t with
      | none => none
      | some x => some (s.giveUp t x)
  | .noteLogin => some { s with loggedIn := true }
  | .close => some { s with connected := false, loggedIn := false }

/-- The bytes are the beginning of whole frames put one after another. -/
def BeginsFrames (submitted : List Bytes) (bytes : Bytes) : Prop :=
  ∃ frames : List Bytes, (∀ frame ∈ frames, frame ∈ submitted) ∧
    bytes <+: frames.flatten

/-- The bytes on the socket are the beginning of whole frames. -/
def KeepsWhole (s : Sender) : Prop :=
  BeginsFrames s.submitted s.written

/-- Bytes are sent only while no other frame is sent in part, and not after
half a frame. -/
def Undivided (s : Sender) : SendEvent → Prop
  | .send t _ => s.torn = false ∧
      ∀ other x, s.sending.lookup other = some x → other ≠ t → x.sent = 0
  | _ => True

/-! ## The frames being sent -/

theorem of_lookup_insert {sending : AList (fun _ : Thread => Sending)}
    {t other : Thread} {x y : Sending}
    (hlookup : (sending.insert t x).lookup other = some y) :
    (other = t ∧ y = x) ∨ (other ≠ t ∧ sending.lookup other = some y) := by
  by_cases hsame : other = t
  · subst hsame
    rw [AList.lookup_insert, Option.some.injEq] at hlookup
    exact Or.inl ⟨rfl, hlookup.symm⟩
  · rw [AList.lookup_insert_ne hsame] at hlookup
    exact Or.inr ⟨hsame, hlookup⟩

theorem of_lookup_erase {sending : AList (fun _ : Thread => Sending)}
    {t other : Thread} {y : Sending}
    (hlookup : (sending.erase t).lookup other = some y) :
    other ≠ t ∧ sending.lookup other = some y := by
  by_cases hsame : other = t
  · subst hsame
    rw [AList.lookup_erase] at hlookup
    cases hlookup
  · rw [AList.lookup_erase_ne hsame] at hlookup
    exact ⟨hsame, hlookup⟩

/-! ## What a call submits -/

/-- A call changes the sequence number and at most adds a frame of which
nothing has been sent. -/
inductive Started (t : Thread) (s : Sender) : Sender → Prop where
  | failed (seq : Nat) : Started t s { s with seq := seq }
  | submitted (seq : Nat) (isLogin : Bool) (frame : Bytes)
      (hframe : frame ≠ []) :
      Started t s
        { s with
          seq := seq
          sending := s.sending.insert t ⟨isLogin, frame, 0⟩
          submitted := s.submitted ++ [frame] }

theorem packFrameMsgpack_ne_nil {packb : Obj → Option Bytes} {obj : Obj}
    {msgType seq : Nat} {frame : Bytes}
    (hpack : ForwarderWire.packFrameMsgpack packb obj msgType seq =
      some frame) : frame ≠ [] := by
  obtain ⟨body, _, rfl⟩ := Option.map_eq_some_iff.mp hpack
  intro hnil
  have hlength := congrArg List.length hnil
  rw [List.length_append, ForwarderWire.packHeader, Header.packLe_length,
    List.length_nil] at hlength
  omega

theorem started_sendMsgpack (packb : Obj → Option Bytes) (t : Thread)
    (isLogin : Bool) (obj : Obj) (msgType : Nat) (s : Sender) :
    Started t s (s.sendMsgpack packb t isLogin obj msgType) := by
  rw [sendMsgpack]
  dsimp only
  split
  · split
    · exact .failed _
    · rename_i frame hpack
      exact .submitted _ _ frame (packFrameMsgpack_ne_nil hpack)
  · exact .failed _

theorem started_start (packb : Obj → Option Bytes) (t : Thread) (made : Call)
    (s : Sender) : Started t s (s.start packb t made) := by
  rw [start]
  split
  · exact .failed s.seq
  · split
    · exact .failed s.seq
    · exact started_sendMsgpack packb t _ _ _ s

/-! ## The invariant -/

/-- What follows the complete frames on the socket. -/
inductive Tail (s : Sender) : Bytes → Prop where
  | between (htorn : s.torn = false)
      (hunsent : ∀ t x, s.sending.lookup t = some x → x.sent = 0) :
      Tail s []
  | within (t : Thread) (x : Sending) (htorn : s.torn = false)
      (hsending : s.sending.lookup t = some x) (hsent : 0 < x.sent)
      (hunsent : ∀ other y, s.sending.lookup other = some y → other ≠ t →
        y.sent = 0) :
      Tail s (x.frame.take x.sent)
  | torn (part frame : Bytes) (htorn : s.torn = true)
      (hframe : frame ∈ s.submitted) (hpart : part <+: frame) : Tail s part

structure Whole (s : Sender) (complete : List Bytes) (part : Bytes) :
    Prop where
  complete_submitted : ∀ frame ∈ complete, frame ∈ s.submitted
  written : s.written = complete.flatten ++ part
  sending : ∀ t x, s.sending.lookup t = some x →
    x.frame ∈ s.submitted ∧ x.sent < x.frame.length
  tail : Tail s part

theorem whole_initial : Whole {} [] [] where
  complete_submitted := by simp
  written := rfl
  sending := by
    intro t x hlookup
    cases hlookup
  tail := .between rfl (fun t x hlookup => by cases hlookup)

theorem Whole.keepsWhole {s : Sender} {complete : List Bytes} {part : Bytes}
    (hwhole : Whole s complete part) : s.KeepsWhole := by
  have hend : part = [] ∨ ∃ frame ∈ s.submitted, part <+: frame := by
    cases hwhole.tail with
    | between => exact Or.inl rfl
    | within t x _ hsending =>
        exact Or.inr ⟨x.frame, (hwhole.sending t x hsending).1,
          List.take_prefix x.sent x.frame⟩
    | torn _ frame _ hframe hpart => exact Or.inr ⟨frame, hframe, hpart⟩
  rcases hend with rfl | ⟨frame, hframe, hpart⟩
  · have hwritten : s.written = complete.flatten :=
      hwhole.written.trans (List.append_nil _)
    exact ⟨complete, hwhole.complete_submitted,
      ⟨[], (List.append_nil _).trans hwritten⟩⟩
  · refine ⟨complete ++ [frame], ?_, ?_⟩
    · intro other hother
      rcases List.mem_append.mp hother with hother | hother
      · exact hwhole.complete_submitted other hother
      · rw [List.mem_singleton.mp hother]
        exact hframe
    · rw [hwhole.written, List.flatten_append, List.flatten_singleton]
      exact (List.prefix_append_right_inj _).mpr hpart

/-! ## The steps -/

theorem Whole.unsent {s s' : Sender} {complete : List Bytes} {part : Bytes}
    (hwhole : Whole s complete part) (hsending : s'.sending = s.sending)
    (hwritten : s'.written = s.written)
    (hsubmitted : s'.submitted = s.submitted) (htorn : s'.torn = s.torn) :
    Whole s' complete part := by
  refine ⟨?_, hwritten.trans hwhole.written, ?_, ?_⟩
  · rw [hsubmitted]
    exact hwhole.complete_submitted
  · rw [hsending, hsubmitted]
    exact hwhole.sending
  · cases hwhole.tail with
    | between hcut hunsent =>
        refine .between (htorn.trans hcut) ?_
        rw [hsending]
        exact hunsent
    | within t x hcut hother hsent hunsent =>
        refine .within t x (htorn.trans hcut) ?_ hsent ?_
        · rw [hsending]
          exact hother
        · rw [hsending]
          exact hunsent
    | torn part frame hcut hframe hpart =>
        refine .torn part frame (htorn.trans hcut) ?_ hpart
        rw [hsubmitted]
        exact hframe

theorem Whole.started {s s' : Sender} {complete : List Bytes} {part : Bytes}
    {t : Thread} (hwhole : Whole s complete part)
    (hfree : s.sending.lookup t = none) (hstarted : Started t s s') :
    Whole s' complete part := by
  cases hstarted with
  | failed seq => exact hwhole.unsent rfl rfl rfl rfl
  | submitted seq isLogin frame hframe =>
      have hold : ∀ other ∈ s.submitted, other ∈ s.submitted ++ [frame] :=
        fun other hother => List.mem_append_left _ hother
      refine ⟨fun other hother => hold other
        (hwhole.complete_submitted other hother), hwhole.written, ?_, ?_⟩
      · intro other y hother
        rcases of_lookup_insert hother with ⟨_, rfl⟩ | ⟨_, hbefore⟩
        · exact ⟨List.mem_append_right _ (List.mem_singleton_self frame),
            List.length_pos_of_ne_nil hframe⟩
        · have hsending := hwhole.sending other y hbefore
          exact ⟨hold _ hsending.1, hsending.2⟩
      · cases hwhole.tail with
        | between htorn hunsent =>
            refine .between htorn (fun other y hother => ?_)
            rcases of_lookup_insert hother with ⟨_, rfl⟩ | ⟨_, hbefore⟩
            · rfl
            · exact hunsent other y hbefore
        | within first x htorn hsending hsent hunsent =>
            have hne : first ≠ t := by
              rintro rfl
              rw [hfree] at hsending
              cases hsending
            refine .within first x htorn ?_ hsent
              (fun other y hother hdiff => ?_)
            · exact (AList.lookup_insert_ne hne).trans hsending
            · rcases of_lookup_insert hother with ⟨_, rfl⟩ | ⟨_, hbefore⟩
              · rfl
              · exact hunsent other y hbefore hdiff
        | torn part other htorn hother hpart =>
            exact .torn part other htorn (hold other hother) hpart

/-- A frame is sent on only where the part on the socket is its own. -/
theorem Whole.part_eq {s : Sender} {complete : List Bytes} {part : Bytes}
    {t : Thread} {x : Sending} (hwhole : Whole s complete part)
    (htorn : s.torn = false)
    (hothers : ∀ other y, s.sending.lookup other = some y → other ≠ t →
      y.sent = 0)
    (hsending : s.sending.lookup t = some x) :
    part = x.frame.take x.sent := by
  cases hwhole.tail with
  | between _ hunsent =>
      rw [hunsent t x hsending, List.take_zero]
  | within other y _ hother hsent _ =>
      by_cases hsame : other = t
      · subst hsame
        rw [hother, Option.some.injEq] at hsending
        rw [hsending]
      · exact absurd (hothers other y hother hsame) hsent.ne'
  | torn part frame hcut =>
      rw [htorn] at hcut
      cases hcut

theorem Whole.progress {s : Sender} {complete : List Bytes} {part : Bytes}
    {t : Thread} {x : Sending} {count : Nat}
    (hwhole : Whole s complete part) (htorn : s.torn = false)
    (hothers : ∀ other y, s.sending.lookup other = some y → other ≠ t →
      y.sent = 0)
    (hsending : s.sending.lookup t = some x) (hcount : 0 < count)
    (hle : x.sent + count ≤ x.frame.length) :
    ∃ complete part, Whole (s.progress t x count) complete part := by
  have hframe := (hwhole.sending t x hsending).1
  have hwritten : s.written ++ (x.frame.drop x.sent).take count =
      complete.flatten ++ x.frame.take (x.sent + count) := by
    rw [hwhole.written, hwhole.part_eq htorn hothers hsending,
      List.take_add, List.append_assoc]
  rw [Sender.progress]
  split
  · rename_i hmore
    refine ⟨complete, x.frame.take (x.sent + count),
      hwhole.complete_submitted, hwritten, ?_, ?_⟩
    · intro other y hother
      rcases of_lookup_insert hother with ⟨_, rfl⟩ | ⟨_, hbefore⟩
      · exact ⟨hframe, hmore⟩
      · exact hwhole.sending other y hbefore
    · refine .within t { x with sent := x.sent + count } htorn
        (AList.lookup_insert _) (by dsimp only; omega) ?_
      intro other y hother hdiff
      rw [AList.lookup_insert_ne hdiff] at hother
      exact hothers other y hother hdiff
  · rename_i hlast
    have hall : x.frame.take (x.sent + count) = x.frame :=
      List.take_of_length_le (by omega)
    refine ⟨complete ++ [x.frame], [], ?_, ?_, ?_, ?_⟩
    · intro frame hmem
      rcases List.mem_append.mp hmem with hmem | hmem
      · exact hwhole.complete_submitted frame hmem
      · rw [List.mem_singleton.mp hmem]
        exact hframe
    · dsimp only
      rw [hwritten, hall, List.flatten_append, List.flatten_singleton,
        List.append_nil]
    · intro other y hother
      exact hwhole.sending other y (of_lookup_erase hother).2
    · refine .between htorn (fun other y hother => ?_)
      obtain ⟨hdiff, hbefore⟩ := of_lookup_erase hother
      exact hothers other y hbefore hdiff

theorem Whole.giveUp {s : Sender} {complete : List Bytes} {part : Bytes}
    {t : Thread} {x : Sending} (hwhole : Whole s complete part)
    (hsending : s.sending.lookup t = some x) :
    Whole (s.giveUp t x) complete part := by
  refine ⟨hwhole.complete_submitted, hwhole.written,
    fun other y hother => hwhole.sending other y (of_lookup_erase hother).2, ?_⟩
  cases hwhole.tail with
  | between htorn hunsent =>
      refine .between ?_
        (fun other y hother => hunsent other y (of_lookup_erase hother).2)
      rw [Sender.giveUp, htorn, hunsent t x hsending]
      rfl
  | within other y htorn hother hsent hunsent =>
      by_cases hsame : other = t
      · subst hsame
        rw [hother, Option.some.injEq] at hsending
        subst hsending
        refine .torn _ y.frame ?_ (hwhole.sending other y hother).1
          (List.take_prefix _ _)
        rw [Sender.giveUp, decide_eq_true hsent, Bool.or_true]
      · have hzero := hunsent t x hsending (Ne.symm hsame)
        refine .within other y ?_ ((AList.lookup_erase_ne hsame).trans hother)
          hsent
          (fun third z hthird => hunsent third z (of_lookup_erase hthird).2)
        rw [Sender.giveUp, htorn, hzero]
        rfl
  | torn part frame htorn hframe hpart =>
      refine .torn part frame ?_ hframe hpart
      rw [Sender.giveUp, htorn, Bool.true_or]

theorem step_whole {packb : Obj → Option Bytes} {hbOn : Bool} {s s' : Sender}
    {event : SendEvent} (hwhole : ∃ complete part, Whole s complete part)
    (hundivided : s.Undivided event)
    (hstep : s.step packb hbOn event = some s') :
    ∃ complete part, Whole s' complete part := by
  obtain ⟨complete, part, hwhole⟩ := hwhole
  cases event with
  | call n made =>
      cases hfree : s.sending.lookup (.caller n) with
      | some x => simp [Sender.step, hfree] at hstep
      | none =>
          simp only [Sender.step, hfree, Option.some.injEq] at hstep
          subst hstep
          exact ⟨complete, part,
            hwhole.started hfree (started_start packb _ made s)⟩
  | beat =>
      cases hfree : s.sending.lookup .heartbeat with
      | some x => simp [Sender.step, hfree] at hstep
      | none =>
          simp only [Sender.step, hfree, Option.ite_none_right_eq_some,
            Option.some.injEq] at hstep
          obtain ⟨_, rfl⟩ := hstep
          exact ⟨complete, part,
            hwhole.started hfree (started_start packb _ .heartbeat s)⟩
  | send t count =>
      cases hsending : s.sending.lookup t with
      | none => simp [Sender.step, hsending] at hstep
      | some x =>
          simp only [Sender.step, hsending, Option.ite_none_right_eq_some,
            Option.some.injEq] at hstep
          obtain ⟨⟨_, hcount, hle⟩, rfl⟩ := hstep
          exact hwhole.progress hundivided.1 hundivided.2 hsending hcount hle
  | raise t =>
      cases hsending : s.sending.lookup t with
      | none => simp [Sender.step, hsending] at hstep
      | some x =>
          simp only [Sender.step, hsending, Option.some.injEq] at hstep
          subst hstep
          exact ⟨complete, part, hwhole.giveUp hsending⟩
  | noteLogin =>
      simp only [Sender.step, Option.some.injEq] at hstep
      subst hstep
      exact ⟨complete, part, hwhole.unsent rfl rfl rfl rfl⟩
  | close =>
      simp only [Sender.step, Option.some.injEq] at hstep
      subst hstep
      exact ⟨complete, part, hwhole.unsent rfl rfl rfl rfl⟩

theorem keepsWhole_of_undivided (packb : Obj → Option Bytes) (hbOn : Bool)
    {events : List SendEvent} {final : Sender}
    (hundivided : Along (Sender.step packb hbOn) Undivided events {})
    (hrun : run (Sender.step packb hbOn) events {} = some final) :
    final.KeepsWhole := by
  obtain ⟨complete, part, hwhole⟩ := run_preserves
    (fun s => ∃ complete part, Whole s complete part)
    (fun _ _ _ hwhole hundivided hstep =>
      step_whole hwhole hundivided hstep)
    ⟨[], [], whole_initial⟩ hundivided hrun
  exact hwhole.keepsWhole

/-! ## Runs -/

instance (s : Sender) (event : SendEvent) : Decidable (s.Undivided event) :=
  match event with
  | .send t _ =>
      decidable_of_iff (s.torn = false ∧
        ∀ entry ∈ s.sending.entries, entry.1 ≠ t → entry.2.sent = 0) (by
          refine and_congr_right (fun _ => ⟨?_, ?_⟩)
          · intro hall other x hlookup
            exact hall ⟨other, x⟩ (AList.mem_lookup_iff.mp hlookup)
          · intro hall entry hentry
            exact hall entry.1 entry.2 (AList.mem_lookup_iff.mpr hentry))
  | .call _ _ | .beat | .raise _ | .noteLogin | .close => isTrue trivial

/-- What `msgpack.packb` makes of a string, a byte string or a number. -/
def packScalar : Obj → Option Tok
  | .str value => some (.str value)
  | .bin value => some (.bin value)
  | .positiveInteger value => some (.uint value)
  | _ => none

/-- What `msgpack.packb` makes of a dictionary of such values. -/
def packDict : Obj → Option Bytes
  | .map entries => do
      let toks ← entries.mapM (fun entry => do
        let key ← packScalar entry.1
        let value ← packScalar entry.2
        return [key, value])
      return packAll (.map entries.length :: toks.flatten)
  | _ => none

/-- Alice has logged in and sends to Bob; the socket takes 30 bytes of the
frame at first. -/
def dataBegun : List SendEvent :=
  [.call 0 (.login (lit "alice") (lit "pw") (lit "user") (lit "broadcast")),
    .send (.caller 0) 87, .noteLogin,
    .call 0 (.sendData (lit "bob") (lit "hi")), .send (.caller 0) 30]

theorem keepsWhole_of_undivided_heartbeat :
    ∃ final, run (Sender.step packDict true)
      (dataBegun ++ [.send (.caller 0) 24, .beat, .send .heartbeat 25]) {} =
        some final ∧
      final.written.length = 166 ∧ final.KeepsWhole := by
  obtain ⟨final, hrun, hlength⟩ :
      ∃ final, run (Sender.step packDict true)
        (dataBegun ++ [.send (.caller 0) 24, .beat, .send .heartbeat 25]) {} =
          some final ∧ final.written.length = 166 :=
    exists_run_of_check (by decide +kernel)
  exact ⟨final, hrun, hlength, keepsWhole_of_undivided packDict true
    (along_of_check (by decide +kernel)) hrun⟩

/-- A necessary condition on the first `n` frames of the bytes, by trial. -/
def beginsCheck (submitted : List Bytes) : Nat → Bytes → Bool
  | 0, _ => true
  | n + 1, bytes =>
      bytes.isEmpty || submitted.any (fun frame =>
        decide (bytes.take frame.length <+: frame) &&
          beginsCheck submitted n (bytes.drop frame.length))

theorem BeginsFrames.check {submitted : List Bytes} {bytes : Bytes}
    (hbegins : BeginsFrames submitted bytes) (n : Nat) :
    beginsCheck submitted n bytes = true := by
  obtain ⟨frames, hframes, hprefix⟩ := hbegins
  induction n generalizing frames bytes with
  | zero => rfl
  | succ n ih =>
      cases frames with
      | nil =>
          rw [List.flatten_nil, List.prefix_nil] at hprefix
          rw [beginsCheck, hprefix]
          rfl
      | cons frame rest =>
          obtain ⟨hframe, hrest⟩ := List.forall_mem_cons.mp hframes
          rw [List.flatten_cons] at hprefix
          have hfirst : bytes.take frame.length <+: frame :=
            List.prefix_of_prefix_length_le
              ((List.take_prefix _ _).trans hprefix)
              (List.prefix_append frame rest.flatten)
              (List.length_take_le _ _)
          have hlater : bytes.drop frame.length <+: rest.flatten := by
            obtain ⟨after, hafter⟩ := hprefix
            refine ⟨after.drop (frame.length - bytes.length), ?_⟩
            rw [← List.drop_append, hafter, List.drop_left]
          rw [beginsCheck, Bool.or_eq_true]
          refine Or.inr (List.any_eq_true.mpr ⟨frame, hframe, ?_⟩)
          rw [decide_eq_true hfirst, Bool.true_and]
          exact ih rest hrest hlater

/-- A heartbeat goes out in the middle of the data frame, and half a
heartbeat is followed by the next one. -/
theorem frame_divided :
    (∃ final, run (Sender.step packDict true)
      (dataBegun ++ [.beat, .send .heartbeat 25, .send (.caller 0) 24]) {} =
        some final ∧ ¬final.KeepsWhole) ∧
    ∃ final, run (Sender.step packDict true)
      (dataBegun ++ [.send (.caller 0) 24, .beat, .send .heartbeat 10,
        .raise .heartbeat, .beat, .send .heartbeat 25]) {} =
        some final ∧ ¬final.KeepsWhole := by
  constructor
  · obtain ⟨final, hrun, hcheck⟩ :
        ∃ final, run (Sender.step packDict true)
          (dataBegun ++ [.beat, .send .heartbeat 25,
            .send (.caller 0) 24]) {} = some final ∧
          beginsCheck final.submitted 2 final.written = false :=
      exists_run_of_check (by decide +kernel)
    refine ⟨final, hrun, fun hwhole => ?_⟩
    rw [hwhole.check 2] at hcheck
    cases hcheck
  · obtain ⟨final, hrun, hcheck⟩ :
        ∃ final, run (Sender.step packDict true)
          (dataBegun ++ [.send (.caller 0) 24, .beat, .send .heartbeat 10,
            .raise .heartbeat, .beat, .send .heartbeat 25]) {} =
            some final ∧
          beginsCheck final.submitted 3 final.written = false :=
      exists_run_of_check (by decide +kernel)
    refine ⟨final, hrun, fun hwhole => ?_⟩
    rw [hwhole.check 3] at hcheck
    cases hcheck

end Sender

end PyRelayClient

end AsioForwarder
