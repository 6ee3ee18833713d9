import AsioForwarder.FrameIo
import AsioForwarder.ServerInvariant

/-!
# The requests in a stream of bytes

`read_loop` reads a header of 24 bytes, tests it, reads the body the header
announces, and hands both to the frame handler.  Whatever the peer sends, the
frames which are handled are those `recv_frame` finds in the same bytes, in
their order, and the loop never holds more than one frame it has not handled.
-/

namespace AsioForwarder

/-! ## Frames one after another -/

/-- A frame which the tests of `read_loop` let through. -/
structure ParsedFrame.Admitted (cfg : Config) (f : ParsedFrame) : Prop where
  valid : f.header.valid = true
  fits : f.header.bodyLen ≤ cfg.maxBodyLen
  complete : f.body.length = f.header.bodyLen.toNat

def ParsedFrame.bytes (f : ParsedFrame) : Bytes :=
  f.header.packLe ++ f.body

def streamBytes (frames : List ParsedFrame) : Bytes :=
  frames.flatMap ParsedFrame.bytes

@[simp] theorem streamBytes_nil : streamBytes [] = [] := rfl

theorem streamBytes_cons (f : ParsedFrame) (frames : List ParsedFrame) :
    streamBytes (f :: frames) = f.bytes ++ streamBytes frames := rfl

theorem streamBytes_concat (frames : List ParsedFrame) (f : ParsedFrame) :
    streamBytes (frames ++ [f]) = streamBytes frames ++ f.bytes := by
  simp [streamBytes]

theorem readFrame_admitted {cfg : Config} {f : ParsedFrame}
    (hadmitted : f.Admitted cfg) (rest : Bytes) :
    readFrame cfg.maxBodyLen (f.bytes ++ rest) = (some f, rest) := by
  have hheader : Header.unpackLe f.header.packLe = f.header := by
    simpa using Header.unpackLe_packLe f.header []
  rw [readFrame, ParsedFrame.bytes, List.append_assoc,
    readExact_of_length (Header.packLe_length f.header)]
  dsimp only
  rw [hheader, hadmitted.valid]
  simp only [Bool.not_true, Bool.false_eq_true, if_false]
  rw [if_neg (UInt32.not_lt.mpr hadmitted.fits),
    readExact_of_length hadmitted.complete]

theorem readAll_admitted {cfg : Config} {frames : List ParsedFrame}
    (hadmitted : ∀ f ∈ frames, f.Admitted cfg) (rest : Bytes) {calls : Nat}
    (hcalls : frames.length ≤ calls) :
    readAll (readFrame cfg.maxBodyLen) calls (streamBytes frames ++ rest) =
      (frames ++ (readAll (readFrame cfg.maxBodyLen) (calls - frames.length)
          rest).1,
        (readAll (readFrame cfg.maxBodyLen) (calls - frames.length)
          rest).2) := by
  induction frames generalizing calls with
  | nil => rfl
  | cons f frames ih =>
      obtain ⟨fewer, rfl⟩ := Nat.exists_eq_succ_of_ne_zero
        (show calls ≠ 0 by rintro rfl; simp at hcalls)
      have hlater := ih (fun g hg => hadmitted g (List.mem_cons_of_mem f hg))
        (Nat.le_of_succ_le_succ hcalls)
      rw [streamBytes_cons, List.append_assoc, readAll,
        readFrame_admitted (hadmitted f List.mem_cons_self)]
      dsimp only
      rw [hlater, List.length_cons, Nat.succ_eq_add_one, Nat.add_sub_add_right]
      rfl

theorem readAll_of_none {α : Type} {read : Bytes → Option α × Bytes}
    {stream : Bytes} (hnone : (read stream).1 = none) (calls : Nat) :
    (readAll read calls stream).1 = [] := by
  cases calls with
  | zero => rfl
  | succ calls =>
      rw [readAll]
      split
      · rfl
      · rename_i item rest hread
        rw [hread] at hnone
        cases hnone

/-- The beginning of a frame ends in the header or in the body. -/
theorem Header.begun_of_append {h : Header} {body part rest : Bytes}
    (hrest : rest ≠ []) (hbytes : part ++ rest = h.packLe ++ body) :
    part.length < 24 ∨
      ∃ begun, part = h.packLe ++ begun ∧ begun.length < body.length := by
  have hpos := List.length_pos_iff.mpr hrest
  by_cases hshort : part.length < 24
  · exact .inl hshort
  · right
    rcases List.append_eq_append_iff.mp hbytes with
      ⟨more, hheader, hmore⟩ | ⟨more, hpart, hmore⟩
    · have hcount := congrArg List.length hheader
      rw [Header.packLe_length, List.length_append] at hcount
      have hnil : more = [] := List.length_eq_zero_iff.mp (by omega)
      subst hnil
      rw [List.append_nil] at hheader
      rw [List.nil_append] at hmore
      exact ⟨[], by rw [List.append_nil, hheader], by rw [← hmore]; exact hpos⟩
    · refine ⟨more, hpart, ?_⟩
      rw [hmore, List.length_append]
      exact Nat.lt_add_of_pos_right hpos

/-! ## What a read loop has taken -/

theorem Header.valid_iff {h : Header} :
    h.valid = true ↔ h.magic = kMagic ∧ h.version = kVersion ∧
      h.headerLen = kHeaderLen := by
  simp [valid, Bool.and_eq_true, and_assoc]

/-- `part` is what a read loop has read of a frame it has not handled. -/
def ReadLoop.Holds (cfg : Config) (part : Bytes) : ReadLoop → Prop
  | .gotHeader h => part = h.packLe
  | .awaitBody h =>
      part = h.packLe ∧ h.valid = true ∧ h.bodyLen ≤ cfg.maxBodyLen ∧
        h.bodyLen ≠ 0
  | .gotBody h body =>
      part = h.packLe ++ body ∧ ParsedFrame.Admitted cfg ⟨h, body⟩
  | .leaving | .closing | .exited =>
      part = [] ∨ ∃ h : Header, part = h.packLe ∧
        (h.valid = false ∨ h.bodyLen > cfg.maxBodyLen ∨ h.bodyLen ≠ 0)
  | _ => part = []

def ReadEvent.bytes : ReadEvent → Bytes
  | .header h => h.packLe
  | .body bytes => bytes
  | _ => []

/-- The frame which a read loop hands to the frame handler. -/
def ReadLoop.handedOver : ReadLoop → ReadEvent → List ParsedFrame
  | .gotBody h body, .resume => [⟨h, body⟩]
  | _, _ => []

/-- The loop is not on its way to the frame handler. -/
def ReadLoop.settled : ReadLoop → Bool
  | .gotHeader _ | .gotBody _ _ => false
  | _ => true

theorem readFrame_refused {cfg : Config} {h : Header}
    (hpart : h.valid = false ∨ h.bodyLen > cfg.maxBodyLen ∨ h.bodyLen ≠ 0) :
    (readFrame cfg.maxBodyLen h.packLe).1 = none := by
  have hheader : Header.unpackLe h.packLe = h := by
    simpa using Header.unpackLe_packLe h []
  have hread : readExact 24 h.packLe = (some h.packLe, []) := by
    have hwhole : readExact 24 (h.packLe ++ []) = (some h.packLe, []) :=
      readExact_of_length (Header.packLe_length h)
    rwa [List.append_nil] at hwhole
  rw [readFrame, hread]
  dsimp only
  rw [hheader]
  split
  · rfl
  · split
    · rfl
    · rename_i hvalid hfits
      have hmore : h.bodyLen ≠ 0 := by
        rw [Bool.not_eq_true, Bool.not_eq_false'] at hvalid
        rcases hpart with hinvalid | hlarge | hmore
        · rw [hinvalid] at hvalid
          cases hvalid
        · exact absurd hlarge hfits
        · exact hmore
      have hpos : h.bodyLen.toNat ≠ 0 := by
        intro hzero
        exact hmore (UInt32.toNat_inj.mp hzero)
      rw [readExact, if_neg (by rw [List.length_nil]; omega)]

theorem ReadLoop.Holds.cases {cfg : Config} {loop : ReadLoop} {part : Bytes}
    (hholds : loop.Holds cfg part) :
    part = [] ∨
    (∃ h : Header, part = h.packLe ∧ (loop.settled = true →
      h.valid = false ∨ h.bodyLen > cfg.maxBodyLen ∨ h.bodyLen ≠ 0)) ∨
    ∃ h body, loop = .gotBody h body ∧ part = h.packLe ++ body ∧
      ParsedFrame.Admitted cfg ⟨h, body⟩ := by
  cases loop with
  | gotHeader h => exact .inr (.inl ⟨h, hholds, by simp [settled]⟩)
  | gotBody h body => exact .inr (.inr ⟨h, body, rfl, hholds⟩)
  | awaitBody h =>
      obtain ⟨hpart, _, _, hmore⟩ := hholds
      exact .inr (.inl ⟨h, hpart, fun _ => .inr (.inr hmore)⟩)
  | leaving | closing | exited =>
      rcases hholds with hpart | ⟨h, hpart, hended⟩
      · exact .inl hpart
      · exact .inr (.inl ⟨h, hpart, fun _ => hended⟩)
  | notAccepted | top | awaitHeader | handling => exact .inl hholds

/-- A settled loop holds no complete frame. -/
theorem ReadLoop.Holds.incomplete {cfg : Config} {loop : ReadLoop}
    {part : Bytes} (hholds : loop.Holds cfg part)
    (hsettled : loop.settled = true) :
    (readFrame cfg.maxBodyLen part).1 = none := by
  rcases hholds.cases with rfl | ⟨h, rfl, hpart⟩ | ⟨h, body, rfl, _⟩
  · rfl
  · exact readFrame_refused (hpart hsettled)
  · cases hsettled

theorem ReadLoop.Holds.length_le {cfg : Config} {loop : ReadLoop}
    {part : Bytes} (hholds : loop.Holds cfg part) :
    part.length ≤ 24 + cfg.maxBodyLen.toNat := by
  rcases hholds.cases with rfl | ⟨h, rfl, _⟩ | ⟨h, body, _, rfl, hadmitted⟩
  · exact Nat.zero_le _
  · rw [Header.packLe_length]
    exact Nat.le_add_right _ _
  · rw [List.length_append, Header.packLe_length, hadmitted.complete]
    exact Nat.add_le_add_left (UInt32.le_iff_toNat_le.mp hadmitted.fits) 24

/-- The bytes held before a move and those read in it are handed over, or
still held. -/
theorem ReadLoop.Holds.next {cfg : Config} {unpack : Bytes → Option Obj}
    {self : Identity} {session : TcpSession} {loop loop' : ReadLoop}
    {event : ReadEvent} {made : Option Call} {part : Bytes}
    (hholds : loop.Holds cfg part)
    (hnext : loop.next cfg unpack self session event = some (loop', made)) :
    ∃ part', loop'.Holds cfg part' ∧
      part ++ event.bytes =
        streamBytes (loop.handedOver event) ++ part' ∧
      ∀ f ∈ loop.handedOver event, f.Admitted cfg := by
  unfold ReadLoop.next at hnext
  split at hnext
  · split at hnext
    · cases hnext
      exact ⟨[], .inl rfl, congrArg (· ++ _) hholds, by simp [handedOver]⟩
    · split at hnext
      · split at hnext
        · cases hnext
          exact ⟨[], .inl rfl, congrArg (· ++ _) hholds, by simp [handedOver]⟩
        · cases hnext
      · cases hnext
        exact ⟨[], rfl, congrArg (· ++ _) hholds, by simp [handedOver]⟩
  · rename_i h
    split at hnext
    · cases hnext
      exact ⟨h.packLe, rfl, congrArg (· ++ _) hholds, by simp [handedOver]⟩
    · cases hnext
  · rename_i h
    have hkept : part ++ ReadEvent.resume.bytes = part := List.append_nil part
    split at hnext
    · rename_i hinvalid
      have hinvalid : h.valid = false := by
        rw [← Bool.not_eq_true, Header.valid_iff]
        tauto
      cases hnext
      exact ⟨part, .inr ⟨h, hholds, .inl hinvalid⟩, hkept,
        by simp [handedOver]⟩
    · rename_i hvalid
      have hvalid : h.valid = true := by
        rw [Header.valid_iff]
        tauto
      split at hnext
      · rename_i hlarge
        cases hnext
        exact ⟨part, .inr ⟨h, hholds, .inr (.inl hlarge)⟩, hkept,
          by simp [handedOver]⟩
      · rename_i hfits
        rw [UInt32.not_lt] at hfits
        split at hnext
        · rename_i hzero
          cases hnext
          refine ⟨part, ⟨?_, hvalid, hfits, ?_⟩, hkept, by simp [handedOver]⟩
          · rw [List.append_nil]
            exact hholds
          · rw [hzero]
            rfl
        · rename_i hmore
          cases hnext
          exact ⟨part, ⟨hholds, hvalid, hfits, hmore⟩, hkept,
            by simp [handedOver]⟩
  · rename_i h bytes
    split at hnext
    · rename_i hread
      cases hnext
      obtain ⟨hpart, hvalid, hfits, _⟩ := hholds
      refine ⟨part ++ bytes, ⟨?_, hvalid, hfits, hread.2⟩, rfl,
        by simp [handedOver]⟩
      rw [hpart]
    · cases hnext
  · rename_i h body
    cases hnext
    obtain ⟨hpart, hadmitted⟩ := hholds
    refine ⟨[], rfl, ?_, ?_⟩
    · rw [hpart]
      simp [ReadEvent.bytes, handedOver, streamBytes, ParsedFrame.bytes]
    · intro f hf
      rw [handedOver, List.mem_singleton] at hf
      rw [hf]
      exact hadmitted
  · cases hnext
    exact ⟨[], .inl rfl, congrArg (· ++ _) hholds, by simp [handedOver]⟩
  · rename_i h
    cases hnext
    obtain ⟨hpart, _, _, hmore⟩ := hholds
    exact ⟨part, .inr ⟨h, hpart, .inr (.inr hmore)⟩, List.append_nil part,
      by simp [handedOver]⟩
  · cases hnext

namespace Server

variable {cfg : Config} {unpack : Bytes → Option Obj} {s s' : Server}
  {event : Event} {c : ConnId}

/-- The bytes the read loop of `c` takes from its socket. -/
def bytesRead (c : ConnId) (_ : Server) : Event → Bytes
  | .read d event => if d = c then event.bytes else []
  | _ => []

/-- The calls of `handle_client_frame` for `c`. -/
def requests (c : ConnId) (s : Server) : Event → List ParsedFrame
  | .read d event => if d = c then (s.readers c).handedOver event else []
  | _ => []

theorem bytesRead_of_ne {event : Event} (hquiet : ∀ read, event ≠ .read c read)
    (s : Server) : s.bytesRead c event = [] ∧ s.requests c event = [] := by
  cases event with
  | read d read =>
      have hne : d ≠ c := by
        rintro rfl
        exact hquiet read rfl
      exact ⟨if_neg hne, if_neg hne⟩
  | _ => exact ⟨rfl, rfl⟩

theorem next_of_read {read : ReadEvent}
    (hstep : s.step cfg unpack (.read c read) = some s') :
    ∃ made, (s.readers c).next cfg unpack (s.hub.identity c)
      (s.hub.sessions c) read = some (s'.readers c, made) := by
  simp only [step] at hstep
  split at hstep
  · cases hstep
  · rename_i loop hnext
    cases hstep
    exact ⟨none, by rw [hnext, setReader_self]⟩
  · rename_i loop made hnext
    cases hstep
    exact ⟨some made, by rw [hnext, setReader_self]⟩

/-- The other parties, and the end of a request, leave what is held. -/
theorem holds_of_quiet (hsane : s.Sane)
    (hstep : s.step cfg unpack event = some s')
    (hquiet : ∀ read, event ≠ .read c read) {part : Bytes}
    (hholds : (s.readers c).Holds cfg part) :
    (s'.readers c).Holds cfg part := by
  have hset : ∀ (d : ConnId) (t : Server) (loop : ReadLoop),
      t.readers = s.readers →
      ((s.readers d).Holds cfg part → loop.Holds cfg part) →
      ((t.setReader d loop).readers c).Holds cfg part := by
    intro d t loop ht hloop
    by_cases hsame : c = d
    · subst hsame
      rw [setReader_self]
      exact hloop hholds
    · rw [setReader_ne _ _ hsame, ht]
      exact hholds
  cases stepped_of_step hstep with
  | accept peerIp =>
      refine hset _ _ _ rfl (fun hnew => ?_)
      rw [(hsane.fresh _ (Nat.lt_succ_self _)).1] at hnew
      exact hnew
  | move d read loop loop' hreader hmoved =>
      have hne : c ≠ d := by
        rintro rfl
        exact hquiet read rfl
      rw [setReader_ne _ _ hne]
      exact hholds
  | give d read made hreader hkind =>
      have hne : c ≠ d := by
        rintro rfl
        exact hquiet read rfl
      rw [setReader_ne _ _ hne]
      exact hholds
  | finish d env q hreader hdone =>
      refine hset _ _ _ rfl (fun hheld => ?_)
      rw [hreader] at hheld
      exact hheld
  | perform d env q q' op hreader hop hallows hsender hheader hstage =>
      refine hset _ _ _ rfl (fun hheld => ?_)
      rw [hreader] at hheld
      exact hheld
  | removeSession d hreader =>
      refine hset _ _ _ rfl (fun hheld => ?_)
      rw [hreader] at hheld
      exact hheld
  | closeSocket d hreader =>
      refine hset _ _ _ rfl (fun hheld => ?_)
      rw [hreader] at hheld
      exact hheld
  | io d event session hio => exact hholds
  | heartbeatTimeout d hlogged hopen => exact hholds
  | snapshotStats => exact hholds

/-- The bytes read on `c` are the frames handled and at most a part of one
more. -/
structure Decoded (cfg : Config) (c : ConnId) (bytes : Bytes)
    (frames : List ParsedFrame) (s : Server) : Prop where
  sane : s.Sane
  admitted : ∀ f ∈ frames, f.Admitted cfg
  split : ∃ part, (s.readers c).Holds cfg part ∧
    bytes = streamBytes frames ++ part

theorem decoded_initial (cfg : Config) (c : ConnId) (db : Db) :
    Decoded cfg c [] [] (initial db) where
  sane := sane_initial db
  admitted := by simp
  split := ⟨[], rfl, rfl⟩

theorem streamBytes_append (first second : List ParsedFrame) :
    streamBytes (first ++ second) =
      streamBytes first ++ streamBytes second :=
  List.flatMap_append

theorem Decoded.step {bytes : Bytes} {frames : List ParsedFrame}
    (hdecoded : Decoded cfg c bytes frames s)
    (hstep : s.step cfg unpack event = some s') :
    Decoded cfg c (bytes ++ s.bytesRead c event)
      (frames ++ s.requests c event) s' := by
  have hsane := hdecoded.sane.step hstep
  obtain ⟨part, hholds, hsplit⟩ := hdecoded.split
  by_cases hread : ∃ read, event = .read c read
  · obtain ⟨read, rfl⟩ := hread
    obtain ⟨made, hnext⟩ := next_of_read hstep
    obtain ⟨part', hholds', hpart, hframes⟩ := hholds.next hnext
    simp only [bytesRead, requests, if_true]
    refine ⟨hsane, ?_, part', hholds', ?_⟩
    · intro f hf
      rcases List.mem_append.mp hf with hf | hf
      · exact hdecoded.admitted f hf
      · exact hframes f hf
    · rw [hsplit, List.append_assoc, hpart, streamBytes_append,
        List.append_assoc]
  · have hquiet : ∀ read, event ≠ .read c read :=
      fun read hsame => hread ⟨read, hsame⟩
    obtain ⟨hbytes, hrequests⟩ := bytesRead_of_ne hquiet s
    rw [hbytes, hrequests, List.append_nil, List.append_nil]
    exact ⟨hsane, hdecoded.admitted, part,
      holds_of_quiet hdecoded.sane hstep hquiet hholds, hsplit⟩

theorem decoded_of_run {db : Db} {events : List Event}
    (hrun : Transition.run (step cfg unpack) events (initial db) = some s)
    (c : ConnId) :
    Decoded cfg c
      (Transition.observe (step cfg unpack) (bytesRead c) events (initial db))
      (Transition.observe (step cfg unpack) (requests c) events (initial db))
      s :=
  Transition.observe_preserves_both (Decoded cfg c)
    (fun _ _ _ _ _ hbefore hstep => hbefore.step hstep)
    (decoded_initial cfg c db) hrun

theorem Decoded.prefix_readAll {bytes : Bytes} {frames : List ParsedFrame}
    (hdecoded : Decoded cfg c bytes frames s) {stream : Bytes}
    (hbegins : bytes <+: stream) {calls : Nat}
    (hcalls : frames.length ≤ calls) :
    frames <+: (readAll (readFrame cfg.maxBodyLen) calls stream).1 := by
  obtain ⟨part, _, rfl⟩ := hdecoded.split
  obtain ⟨rest, rfl⟩ := hbegins
  rw [List.append_assoc, readAll_admitted hdecoded.admitted _ hcalls]
  exact List.prefix_append _ _

theorem Decoded.eq_readAll {bytes : Bytes} {frames : List ParsedFrame}
    (hdecoded : Decoded cfg c bytes frames s)
    (hsettled : (s.readers c).settled = true) {calls : Nat}
    (hcalls : frames.length ≤ calls) :
    (readAll (readFrame cfg.maxBodyLen) calls bytes).1 = frames := by
  obtain ⟨part, hholds, rfl⟩ := hdecoded.split
  rw [readAll_admitted hdecoded.admitted _ hcalls]
  dsimp only
  rw [readAll_of_none (hholds.incomplete hsettled), List.append_nil]

theorem Decoded.length_le {bytes : Bytes} {frames : List ParsedFrame}
    (hdecoded : Decoded cfg c bytes frames s) :
    bytes.length ≤
      (streamBytes frames).length + 24 + cfg.maxBodyLen.toNat := by
  obtain ⟨part, hholds, rfl⟩ := hdecoded.split
  rw [List.length_append, Nat.add_assoc]
  exact Nat.add_le_add_left hholds.length_le _

/-- Whatever bytes arrive on a connection, the frames handled are the first
ones `recv_frame` finds in them.  No frame is skipped, and at most one is read
before it is handled. -/
theorem requests_of_stream (cfg : Config) (unpack : Bytes → Option Obj)
    (db : Db) {events : List Event} {s : Server}
    (hrun : Transition.run (step cfg unpack) events (initial db) = some s)
    (c : ConnId) {bytes : Bytes} {frames : List ParsedFrame}
    (hbytes : Transition.observe (step cfg unpack) (bytesRead c) events
      (initial db) = bytes)
    (hframes : Transition.observe (step cfg unpack) (requests c) events
      (initial db) = frames) {calls : Nat} (hcalls : frames.length ≤ calls) :
    (∀ stream, bytes <+: stream →
      frames <+: (readAll (readFrame cfg.maxBodyLen) calls stream).1) ∧
    ((s.readers c).settled = true →
      (readAll (readFrame cfg.maxBodyLen) calls bytes).1 = frames) ∧
    bytes.length ≤
      (streamBytes frames).length + 24 + cfg.maxBodyLen.toNat := by
  have hdecoded := decoded_of_run hrun c
  rw [hbytes, hframes] at hdecoded
  exact ⟨fun _ hbegins => hdecoded.prefix_readAll hbegins hcalls,
    fun hsettled => hdecoded.eq_readAll hsettled hcalls, hdecoded.length_le⟩

/-- `root` logs in and sends the header of a heartbeat. -/
def rootAndHeader : List Event :=
  rootLogin ++ [.read 1 (.loopTop false),
    .read 1 (.header { msgType := kClientHeartbeat, seq := 2, bodyLen := 1 })]

def rootLoginFrame : ParsedFrame where
  header :=
    { msgType := kClientLogin
      seq := 1
      bodyLen := UInt32.ofNat
        (packAll (loginBody (lit "root") (lit "pw") (lit "admin"))).length }
  body := packAll (loginBody (lit "root") (lit "pw") (lit "admin"))

theorem requests_of_stream_rootAndHeader :
    ∃ (s : Server) (bytes : Bytes), Transition.run
        (step forwarderJson unpackFlat) rootAndHeader (initial emptyDb) =
          some s ∧
      bytes.length = 48 + rootLoginFrame.body.length ∧
      (∀ stream, bytes <+: stream → [rootLoginFrame] <+:
        (readAll (readFrame forwarderJson.maxBodyLen) 1 stream).1) ∧
      bytes.length ≤ (streamBytes [rootLoginFrame]).length + 24 +
        forwarderJson.maxBodyLen.toNat := by
  obtain ⟨s, hrun, hbytes, hframes⟩ : ∃ s, Transition.run
        (step forwarderJson unpackFlat) rootAndHeader (initial emptyDb) =
        some s ∧
      (Transition.observe (step forwarderJson unpackFlat) (bytesRead 1)
        rootAndHeader (initial emptyDb)).length =
          48 + rootLoginFrame.body.length ∧
      Transition.observe (step forwarderJson unpackFlat) (requests 1)
        rootAndHeader (initial emptyDb) = [rootLoginFrame] :=
    Transition.exists_run_of_check (by decide +kernel)
  obtain ⟨hfirst, _, hlength⟩ := requests_of_stream forwarderJson unpackFlat
    emptyDb hrun 1 rfl hframes (Nat.le_refl 1)
  exact ⟨s, _, hrun, hbytes, hfirst, hlength⟩

end Server

end AsioForwarder
