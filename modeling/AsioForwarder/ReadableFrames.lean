import AsioForwarder.ListUsersReply
import AsioForwarder.ReplyAgreement
import AsioForwarder.SessionLedger

/-!
# Every frame the server sends can be read

The body of a frame is one msgpack map, complete and with nothing after it, so
`RelayClient::recv` makes an event of it.  The one exception is the answer to
`list_users`, which is such a map as long as no socket is closed while the
handler counts and lists the connections.
-/

namespace AsioForwarder

open Interaction

/-! ## Reading what was packed -/

/-- What the calls pack is read, with the calls after it left.  `fuel` goes
down by one for each sibling and each level. -/
theorem read_of_packs (fuel : Nat) :
    (∀ toks obj objs, Packs toks (obj :: objs) → 2 * toks.length ≤ fuel →
      ∃ rest, readTok fuel toks = some (obj, rest) ∧ Packs rest objs ∧
        rest.length < toks.length) ∧
    (∀ elements toks objs, Packs toks (elements ++ objs) →
      2 * toks.length + 1 ≤ fuel →
      ∃ rest, readElements fuel elements.length toks = some (elements, rest) ∧
        Packs rest objs ∧ rest.length ≤ toks.length) ∧
    ∀ entries toks objs, Packs toks (flatten entries ++ objs) →
      2 * toks.length + 1 ≤ fuel →
      ∃ rest, readEntries fuel entries.length toks = some (entries, rest) ∧
        Packs rest objs ∧ rest.length ≤ toks.length := by
  induction fuel with
  | zero =>
      refine ⟨fun toks obj objs hpacks hfuel => ?_,
        fun elements toks objs _ hfuel => by omega,
        fun entries toks objs _ hfuel => by omega⟩
      have hnil : toks = [] := List.length_eq_zero_iff.mp (by omega)
      subst hnil
      cases hpacks
  | succ fuel ih =>
      obtain ⟨htok, helements, hentries⟩ := ih
      refine ⟨?_, ?_, ?_⟩
      · intro toks obj objs hpacks hfuel
        cases hpacks with
        | str value hlater => exact ⟨_, rfl, hlater, Nat.lt_succ_self _⟩
        | bin value hlater => exact ⟨_, rfl, hlater, Nat.lt_succ_self _⟩
        | uint value hlater => exact ⟨_, rfl, hlater, Nat.lt_succ_self _⟩
        | bool value hlater => exact ⟨_, rfl, hlater, Nat.lt_succ_self _⟩
        | array elements hlater =>
            rw [List.length_cons] at hfuel
            obtain ⟨rest, hread, hrest, hlength⟩ :=
              helements elements _ objs hlater (by omega)
            refine ⟨rest, ?_, hrest, Nat.lt_succ_of_le hlength⟩
            rw [readTok, hread]
            rfl
        | map entries hlater =>
            rw [List.length_cons] at hfuel
            obtain ⟨rest, hread, hrest, hlength⟩ :=
              hentries entries _ objs hlater (by omega)
            refine ⟨rest, ?_, hrest, Nat.lt_succ_of_le hlength⟩
            rw [readTok, hread]
            rfl
      · intro elements toks objs hpacks hfuel
        cases elements with
        | nil => exact ⟨toks, rfl, hpacks, Nat.le_refl _⟩
        | cons element later =>
            obtain ⟨middle, hfirst, hmiddle, hshorter⟩ :=
              htok toks element (later ++ objs) hpacks (by omega)
            obtain ⟨rest, hread, hrest, hlength⟩ :=
              helements later middle objs hmiddle (by omega)
            refine ⟨rest, ?_, hrest, by omega⟩
            rw [List.length_cons, readElements, hfirst]
            simp only [hread, Option.map_some]
      · intro entries toks objs hpacks hfuel
        cases entries with
        | nil =>
            refine ⟨toks, readEntries_zero _ _, hpacks, Nat.le_refl _⟩
        | cons entry later =>
            obtain ⟨key, value⟩ := entry
            obtain ⟨afterKey, hkey, hvalues, hshorter⟩ :=
              htok toks key (value :: (flatten later ++ objs)) hpacks
                (by omega)
            obtain ⟨middle, hvalue, hmiddle, hshorter'⟩ :=
              htok afterKey value (flatten later ++ objs) hvalues (by omega)
            obtain ⟨rest, hread, hrest, hlength⟩ :=
              hentries later middle objs hmiddle (by omega)
            refine ⟨rest, ?_, hrest, by omega⟩
            rw [List.length_cons, readEntries_succ, hkey, Option.bind_some,
              hvalue, Option.bind_some, hread]
            rfl

theorem unpackToks_of_packs {toks : List Tok} {obj : Obj}
    (hpacks : Packs toks [obj]) : unpackToks toks = some obj := by
  obtain ⟨rest, hread, -⟩ :=
    (read_of_packs (2 * toks.length)).1 toks obj [] hpacks (Nat.le_refl _)
  rw [unpackToks, hread]
  rfl

/-! ## Frames -/

/-- The calls pack one map and nothing else. -/
def PacksMap (body : List Tok) : Prop :=
  ∃ entries, Packs body [.map entries]

/-- The body is one map, of which `recv` makes an event. -/
structure Wire.Readable (w : Wire) : Prop where
  body : PacksMap w.body
  event : ∃ event, RelayClient.eventOfWire w = some event

theorem readable_replyWire (seq : UInt32) {body : List Tok}
    (hbody : PacksMap body) : (replyWire seq body).Readable := by
  obtain ⟨entries, hpacks⟩ := hbody
  have hevent := RelayClient.eventOfWire_replyWire seq body
  rw [unpackToks_of_packs hpacks] at hevent
  exact ⟨⟨entries, hpacks⟩, _, hevent⟩

theorem readable_errReplyWire (seq : UInt32) (code : Nat) (message : Bytes) :
    (errReplyWire seq code message).Readable :=
  readable_replyWire seq ⟨[(.str (lit "ok"), .boolean false),
    (.str (lit "code"), .positiveInteger code),
    (.str (lit "message"), .str message)],
    .map [_, _, _] (.str _ (.bool _ (.str _ (.uint _ (.str _ (.str _
      .nil))))))⟩

theorem readable_okReplyWire (seq : UInt32) (op : Bytes) :
    (okReplyWire seq op).Readable :=
  readable_replyWire seq ⟨[(.str (lit "ok"), .boolean true),
    (.str (lit "op"), .str op)],
    .map [_, _] (.str _ (.bool _ (.str _ (.str _ .nil))))⟩

theorem readable_loginReplyWire (seq : UInt32) (self : Identity)
    (lok : LoginOk) : (loginReplyWire seq self lok).Readable := by
  apply readable_replyWire
  obtain ⟨mode, notice⟩ := lok
  cases notice with
  | none =>
      exact ⟨[_, _, _, _, _, _, _], .map [(.str _, .boolean _),
        (.str _, .str _), (.str _, .positiveInteger _),
        (.str _, .positiveInteger _), (.str _, .str _), (.str _, .str _),
        (.str _, .str _)]
        (.str _ (.bool _ (.str _ (.str _ (.str _ (.uint _ (.str _ (.uint _
          (.str _ (.str _ (.str _ (.str _ (.str _ (.str _ .nil))))))))))))))⟩
  | some notice =>
      exact ⟨[_, _, _, _, _, _, _, _], .map [(.str _, .boolean _),
        (.str _, .str _), (.str _, .positiveInteger _),
        (.str _, .positiveInteger _), (.str _, .str _), (.str _, .str _),
        (.str _, .str _), (.str _, .str _)]
        (.str _ (.bool _ (.str _ (.str _ (.str _ (.uint _ (.str _ (.uint _
          (.str _ (.str _ (.str _ (.str _ (.str _ (.str _ (.str _ (.str _
            .nil))))))))))))))))⟩

theorem readable_deliverWire (seq : UInt32) (payload : Bytes)
    (srcConn dstConn : Nat) (srcUsername dstUsername : Bytes) :
    (deliverWire seq payload srcConn dstConn srcUsername
      dstUsername).Readable :=
  ⟨⟨[_, _, _, _, _], .map [(.str _, .bin _), (.str _, .positiveInteger _),
      (.str _, .positiveInteger _), (.str _, .str _), (.str _, .str _)]
      (.str _ (.bin _ (.str _ (.uint _ (.str _ (.uint _ (.str _ (.str _
        (.str _ (.str _ .nil))))))))))⟩, _, rfl⟩

theorem readable_kickWire (reason : Bytes) : (kickWire reason).Readable :=
  ⟨⟨[_, _], .map [(.str _, .str _), (.str _, .str _)]
    (.str _ (.str _ (.str _ (.str _ .nil))))⟩, _, rfl⟩

/-- A report whose value is one object. -/
theorem packs_report (key : Bytes) {value : List Tok} {obj : Obj}
    (hvalue : Packs value [obj]) :
    Packs (RelayClient.reportBody key value)
      [.map [(.str (lit "ok"), .boolean true),
        (.str (lit "op"), .str (lit "CONTROL")), (.str key, obj)]] :=
  .map [(.str _, .boolean _), (.str _, .str _), (.str _, obj)]
    (.str _ (.bool _ (.str _ (.str _ (.str _ hvalue)))))

theorem packs_rows {α : Type} (row : α → List Tok) (object : α → Obj)
    (hrow : ∀ item toks objs, Packs toks objs →
      Packs (row item ++ toks) (object item :: objs))
    (rows : List α) :
    Packs (.array rows.length :: rows.flatMap row)
      [.array (rows.map object)] := by
  have hrows := packs_flatMap row object hrow rows .nil
  have hlength : rows.length = (rows.map object).length :=
    (List.length_map _).symm
  rw [List.append_nil] at hrows
  rw [hlength]
  exact .array _ hrows

theorem packs_allowlist (rows : List (Nat × Bytes)) :
    Packs (.array rows.length :: rows.flatMap (fun row =>
        [.map 2, .str (lit "id"), .uint row.1, .str (lit "ip"), .str row.2]))
      [.array (rows.map (fun row => .map
        [(.str (lit "id"), .positiveInteger row.1),
          (.str (lit "ip"), .str row.2)]))] :=
  packs_rows _ _ (fun _ _ _ hlater => .map [(_, _), (_, _)]
    (.str _ (.uint _ (.str _ (.str _ hlater))))) rows

theorem packs_userTable (rows : List (Nat × Bytes × Bool)) :
    Packs (.array rows.length :: rows.flatMap (fun row =>
        [.map 3, .str (lit "id"), .uint row.1, .str (lit "username"),
          .str row.2.1, .str (lit "is_admin"), .bool row.2.2]))
      [.array (rows.map (fun row => .map
        [(.str (lit "id"), .positiveInteger row.1),
          (.str (lit "username"), .str row.2.1),
          (.str (lit "is_admin"), .boolean row.2.2)]))] :=
  packs_rows _ _ (fun _ _ _ hlater => .map [(_, _), (_, _), (_, _)]
    (.str _ (.uint _ (.str _ (.str _ (.str _ (.bool _ hlater))))))) rows

/-! ## The handler -/

/-- Every frame passed on is one which can be read, or carries the body which
`list_users` has built. -/
def readableProtocol : Protocol Op Op.Res where
  Stage := Option (List Tok)
  Allows := fun listed op => ∀ c wire, op = .call c (.sendFrame wire) →
    wire.Readable ∨ ∃ seq body, listed = some body ∧ wire = replyWire seq body
  next := fun listed op result =>
    match op, result with
    | .lock .listUsers, body => some body
    | _, _ => listed

/-- The handler passes on nothing that cannot be read. -/
abbrev PassesReadable (program : Frame Unit) : Prop :=
  readableProtocol.Conforms (fun _ _ => True) (none : Option (List Tok))
    program

/-- A piece which sends nothing and does not ask for the sessions. -/
def Silent {α : Type} (program : Frame α) : Prop :=
  readableProtocol.Conforms (fun _ reached => reached = none)
    (none : Option (List Tok)) program

theorem allows_quiet {listed : Option (List Tok)} {op : Op}
    (hquiet : ∀ c wire, op ≠ .call c (.sendFrame wire)) :
    readableProtocol.Allows listed op :=
  fun c wire hsame => absurd hsame (hquiet c wire)

theorem passes_sendFrame {c : ConnId} {wire : Wire} (hwire : wire.Readable) :
    PassesReadable (Frame.sendFrame c wire) := by
  refine ⟨fun d other hsame => .inl ?_, fun _ => trivial⟩
  cases hsame
  exact hwire

theorem passes_refusal (sender : Identity) (seq : UInt32) (code : Nat)
    (message : Bytes) :
    PassesReadable (sendErrReply sender seq code message) :=
  passes_sendFrame (readable_errReplyWire seq code message)

theorem passes_store {operation : StoreOp}
    {next : operation.Res → Frame Unit}
    (hnext : ∀ result, PassesReadable (next result)) :
    PassesReadable (Frame.store operation >>= next) :=
  Protocol.conforms_perform_bind (allows_quiet (by simp)) hnext

theorem passes_silent {α : Type} {program : Frame α} {next : α → Frame Unit}
    (hsilent : Silent program) (hnext : ∀ value, PassesReadable (next value)) :
    PassesReadable (program >>= next) := by
  refine Protocol.conforms_bind hsilent ?_
  rintro value reached rfl
  exact hnext value

theorem silent_notifyEach (userReason logWhy : Bytes) (todo : List ConnId) :
    Silent (Frame.notifyEach userReason logWhy todo) := by
  induction todo with
  | nil => rfl
  | cons victim rest ih => exact ⟨allows_quiet (by simp), fun _ => ih⟩

section Handler

variable (sender : Identity) (seq : UInt32) (mp : ObjMap)

theorem passes_handleLogin : PassesReadable (handleLogin sender seq mp) := by
  refine passes_silent ?_ (fun outcome => ?_)
  · unfold tryAuthenticate
    split
    · exact rfl
    · refine Protocol.conforms_perform_bind (allows_quiet (by simp))
        (fun cip => ?_)
      split
      · exact rfl
      · refine Protocol.conforms_perform_bind (allows_quiet (by simp))
          (fun listed => ?_)
        cases listed with
        | false => exact rfl
        | true =>
            refine Protocol.conforms_perform_bind (allows_quiet (by simp))
              (fun outcome => ?_)
            cases outcome with
            | error e => exact rfl
            | ok uinfo =>
                refine Protocol.conforms_perform_bind (allows_quiet (by simp))
                  (fun registered => ?_)
                refine Protocol.conforms_bind (silent_notifyEach _ _ _) ?_
                rintro _ reached rfl
                exact rfl
  · cases outcome with
    | error failure => exact passes_refusal _ _ _ _
    | ok result => exact passes_sendFrame (readable_loginReplyWire _ _ _)

theorem passes_handleData : PassesReadable (handleData sender seq mp) := by
  unfold handleData
  split
  · exact passes_refusal _ _ _ _
  · split
    · exact passes_refusal _ _ _ _
    · exact passes_refusal _ _ _ _
    · refine passes_silent ?_ (fun _ =>
        passes_sendFrame (readable_okReplyWire _ _))
      refine Protocol.conforms_perform_bind (allows_quiet (by simp))
        (fun cached => ?_)
      cases cached with
      | some uid => exact ⟨allows_quiet (by simp), fun _ => rfl⟩
      | none =>
          refine Protocol.conforms_perform_bind (allows_quiet (by simp))
            (fun stored => ?_)
          cases stored with
          | none => exact rfl
          | some uid =>
              exact ⟨allows_quiet (by simp),
                fun _ => ⟨allows_quiet (by simp), fun _ => rfl⟩⟩

theorem passes_listUsers : PassesReadable (listUsers sender seq) := by
  refine Protocol.conforms_perform_bind (allows_quiet (by simp))
    (fun body => ⟨fun c wire hsame => ?_, fun _ => trivial⟩)
  cases hsame
  exact .inr ⟨seq, body, rfl, rfl⟩

theorem passes_kickUser : PassesReadable (kickUser sender seq mp) := by
  unfold kickUser
  split
  · exact passes_refusal _ _ _ _
  · refine Protocol.conforms_perform_bind (allows_quiet (by simp))
      (fun victims => ?_)
    refine passes_silent (silent_notifyEach _ _ _) (fun _ => ?_)
    exact passes_sendFrame (readable_replyWire seq
      ⟨_, packs_report (lit "kicked_count") (.uint victims.length .nil)⟩)

theorem passes_allowlistList : PassesReadable (allowlistList sender seq) := by
  refine passes_store (fun outcome => ?_)
  cases outcome with
  | error err => exact passes_refusal _ _ _ _
  | ok rows =>
      exact passes_sendFrame (readable_replyWire seq
        ⟨_, packs_report (lit "rows") (packs_allowlist rows)⟩)

theorem passes_userTableList : PassesReadable (userTableList sender seq) := by
  refine passes_store (fun outcome => ?_)
  cases outcome with
  | error err => exact passes_refusal _ _ _ _
  | ok rows =>
      exact passes_sendFrame (readable_replyWire seq
        ⟨_, packs_report (lit "rows") (packs_userTable rows)⟩)

theorem passes_replyToStore (outcome : Option Bytes) :
    PassesReadable (replyToStore sender seq outcome) := by
  cases outcome with
  | none => exact passes_sendFrame (readable_okReplyWire _ _)
  | some err => exact passes_refusal _ _ _ _

theorem passes_allowlistAdd : PassesReadable (allowlistAdd sender seq mp) := by
  unfold allowlistAdd
  split
  · exact passes_refusal _ _ _ _
  · exact passes_refusal _ _ _ _
  · exact passes_store (passes_replyToStore sender seq)

theorem passes_allowlistUpdate :
    PassesReadable (allowlistUpdate sender seq mp) := by
  unfold allowlistUpdate
  split
  · exact passes_store (passes_replyToStore sender seq)
  · exact passes_refusal _ _ _ _

theorem passes_allowlistDelete :
    PassesReadable (allowlistDelete sender seq mp) := by
  unfold allowlistDelete
  split
  · exact passes_refusal _ _ _ _
  · exact passes_store (passes_replyToStore sender seq)

theorem passes_userTableAdd : PassesReadable (userTableAdd sender seq mp) := by
  unfold userTableAdd
  split
  · split
    · exact passes_refusal _ _ _ _
    · exact passes_store (passes_replyToStore sender seq)
  · exact passes_refusal _ _ _ _

theorem passes_userTableUpdate :
    PassesReadable (userTableUpdate sender seq mp) := by
  unfold userTableUpdate
  split
  · exact passes_refusal _ _ _ _
  · refine passes_store (fun outcome => ?_)
    cases outcome with
    | error err => exact passes_refusal _ _ _ _
    | ok oldName =>
        dsimp only
        split
        · exact passes_refusal _ _ _ _
        · split
          · exact passes_refusal _ _ _ _
          · refine passes_store (fun updated => ?_)
            cases updated with
            | some err => exact passes_refusal _ _ _ _
            | none =>
                dsimp only
                split
                · exact passes_sendFrame (readable_okReplyWire _ _)
                · refine Protocol.conforms_perform_bind (allows_quiet (by simp))
                    (fun _ => ?_)
                  exact passes_sendFrame (readable_okReplyWire _ _)

theorem passes_userTableDelete :
    PassesReadable (userTableDelete sender seq mp) := by
  unfold userTableDelete
  split
  · exact passes_refusal _ _ _ _
  · refine passes_store (fun outcome => ?_)
    cases outcome with
    | error err => exact passes_refusal _ _ _ _
    | ok uname =>
        refine Protocol.conforms_perform_bind (allows_quiet (by simp))
          (fun victims => ?_)
        refine passes_silent (silent_notifyEach _ _ _) (fun _ => ?_)
        refine Protocol.conforms_perform_bind (allows_quiet (by simp))
          (fun _ => ?_)
        exact passes_store (passes_replyToStore sender seq)

theorem passes_handleControl :
    PassesReadable (handleControl sender seq mp) := by
  unfold handleControl
  dsimp only
  split
  · exact passes_listUsers sender seq
  split
  · exact passes_kickUser sender seq mp
  split
  · exact passes_allowlistList sender seq
  split
  · exact passes_allowlistAdd sender seq mp
  split
  · exact passes_allowlistUpdate sender seq mp
  split
  · exact passes_allowlistDelete sender seq mp
  split
  · exact passes_userTableList sender seq
  split
  · exact passes_userTableAdd sender seq mp
  split
  · exact passes_userTableUpdate sender seq mp
  split
  · exact passes_userTableDelete sender seq mp
  · exact passes_refusal _ _ _ _

theorem passes_handleClientFrame (unpack : Bytes → Option Obj) (h : Header)
    (body : Bytes) :
    PassesReadable (handleClientFrame unpack sender h body) := by
  have hstop : ∀ why, PassesReadable (Frame.stop sender.connId why) :=
    fun why => ⟨allows_quiet (by simp), fun _ => trivial⟩
  have hmap : ∀ next : ObjMap → Frame Unit,
      (∀ mp, PassesReadable (next mp)) →
      PassesReadable (withMap unpack sender body next) := by
    intro next hnext
    unfold withMap
    split
    · exact hstop _
    · exact hnext _
    · exact hstop _
  unfold handleClientFrame
  split
  · split
    · exact hstop _
    · exact hmap _ (passes_handleLogin sender h.seq)
  · refine hmap _ (fun mp => ?_)
    split
    · exact passes_sendFrame (readable_okReplyWire _ _)
    split
    · exact passes_handleData sender h.seq mp
    split
    · split
      · exact passes_refusal _ _ _ _
      · exact passes_handleControl sender h.seq mp
    · exact passes_refusal _ _ _ _

end Handler

/-! ## Runs of the server -/

/-- `list_users` builds a map if no socket is closed between its counting and
its listing. -/
theorem packsMap_listUsers (cfg : Config) {env : Env} {isOpen : ConnId → Bool}
    {r : Registry}
    (hsteady : ∀ account ∈ r.userDeque.entries, ∀ c ∈ account.2,
      isOpen c = true → env.stillOpen c = true) :
    PacksMap (LockOp.exec cfg env isOpen r .listUsers).2.2 := by
  have hcount : ∀ account ∈ r.userDeque.entries,
      (account.2.filter isOpen).length =
        (account.2.filter (fun c => isOpen c && env.stillOpen c)).length := by
    intro account haccount
    congr 1
    refine List.filter_congr (fun c hc => ?_)
    cases hopen : isOpen c with
    | false => rfl
    | true => simp [hsteady account haccount c hc hopen]
  have hreply : r.WellFormedReply (r.listUsersBody isOpen
      (fun c => isOpen c && env.stillOpen c) env.endpointStr) :=
    Registry.wellFormedReply_of_counts hcount
  obtain ⟨users, -, hpacks⟩ := hreply
  exact ⟨_, hpacks⟩

def Op.listsUsers : Op → Bool
  | .lock .listUsers => true
  | _ => false

/-- Frames passed to a session, or the notice of a kick. -/
def TcpSession.From (sent : List Wire) (s : TcpSession) : Prop :=
  ∀ w ∈ s.line, w ∈ sent ∨ ∃ reason, w = kickWire reason

theorem TcpSession.From.post {sent more : List Wire} {s : TcpSession}
    (hfrom : s.From sent) {handler : Handler}
    (hframe : ∀ w, frameOf handler = some w →
      w ∈ sent ++ more ∨ ∃ reason, w = kickWire reason) :
    (s.post handler).From (sent ++ more) := by
  intro w hw
  have hline : (s.post handler).line =
      s.line ++ (frameOf handler).toList := by
    cases handler <;> simp [line, TcpSession.post, frameOf]
  rw [hline] at hw
  rcases List.mem_append.mp hw with hw | hw
  · exact (hfrom w hw).imp_left (List.mem_append_left _)
  · exact hframe w (Option.mem_toList.mp hw)

theorem TcpSession.From.call {sent : List Wire} {s : TcpSession}
    (hfrom : s.From sent) (made : Call) :
    (made.apply s).From (sent ++ made.sent.toList) := by
  cases made with
  | sendFrame wire =>
      refine hfrom.post (fun w hw => .inl ?_)
      cases hw
      exact List.mem_append_right _ List.mem_cons_self
  | notifyAndClose userReason logWhy =>
      rw [Call.apply, notifyAndClose]
      split
      · have hkick : (s.post (.kick (kickWire userReason) logWhy)).From
            (sent ++ []) := by
          refine hfrom.post (fun w hw => .inr ?_)
          cases hw
          exact ⟨userReason, rfl⟩
        exact hkick
      · exact hfrom.post (fun w hw => by cases hw)
  | stop why => exact hfrom.post (fun w hw => by cases hw)
  | markLogin uid isAdmin username =>
      exact fun w hw => (hfrom w hw).imp_left (List.mem_append_left _)

namespace Server

variable {cfg : Config} {unpack : Bytes → Option Obj} {s s' : Server}
  {event : Event}

/-- If the step is the critical section of `list_users`, no socket is closed
between its two passes over the connections. -/
def ListsSteadily (s : Server) (event : Event) : Prop :=
  ∀ acting ∈ event.advance?, ∀ op ∈ s.pendingOp acting.1,
    op.listsUsers = true →
    ∀ account ∈ s.hub.reg.userDeque.entries, ∀ c ∈ account.2,
      s.hub.isOpen c = true → acting.2.stillOpen c = true

instance (s : Server) (event : Event) : Decidable (s.ListsSteadily event) :=
  inferInstanceAs (Decidable (∀ acting ∈ event.advance?, _))

/-- The frames passed on so far can be read, and so will those be which the
handlers under way have left to pass on. -/
structure Legible (s : Server) : Prop where
  handlers : ∀ c q, s.readers c = .handling q → ∃ listed,
    (∀ body, listed = some body → PacksMap body) ∧
      readableProtocol.Conforms (fun _ _ => True) listed q.program
  calls : ∀ c wire, (c, Call.sendFrame wire) ∈ s.hub.calls → wire.Readable

theorem legible_initial (db : Db) : (initial db).Legible where
  handlers := by
    intro c q hreader
    cases hreader
  calls := by simp [initial]

/-- What a handler has listed packs a map after the operation, too. -/
theorem listed_of_exec (cfg : Config) (hsteady : s.ListsSteadily event)
    {c : ConnId} {env : Env} {q : Request} {op : Op}
    {rest : op.Res → Frame Unit} (hevent : event = .advance c env)
    (hreader : s.readers c = .handling q)
    (hprogram : q.program = .op op rest) {listed : Option (List Tok)}
    (hlisted : ∀ body, listed = some body → PacksMap body) :
    ∀ body, readableProtocol.next listed op (op.exec cfg env s.hub).2 =
      some body → PacksMap body := by
  intro body hbody
  cases op with
  | lock operation =>
      cases operation with
      | listUsers =>
          have hop : Op.lock .listUsers ∈ s.pendingOp c := by
            rw [pendingOp_of_handling hreader,
              Request.nextOp_of_program hprogram]
            rfl
          subst hevent
          cases hbody
          exact packsMap_listUsers cfg (hsteady (c, env) rfl _ hop rfl)
      | _ => exact hlisted body hbody
  | _ => exact hlisted body hbody

theorem readable_of_op {cfg : Config} {env : Env} {hub : Hub} {op : Op}
    {listed : Option (List Tok)}
    (hallows : readableProtocol.Allows listed op)
    (hlisted : ∀ body, listed = some body → PacksMap body) {c : ConnId}
    {wire : Wire}
    (hcall : (c, Call.sendFrame wire) ∈ op.calls cfg env hub) :
    wire.Readable := by
  cases op with
  | call d made =>
      cases List.mem_singleton.mp hcall
      rcases hallows c wire rfl with hreadable | ⟨seq, body, hbody, rfl⟩
      · exact hreadable
      · exact readable_replyWire seq (hlisted body hbody)
  | lock operation =>
      cases operation with
      | deliver srcUsername srcConn dstUsername dstUid payload seq =>
          simp only [Op.calls, LockOp.exec, List.mem_map] at hcall
          obtain ⟨d, -, hpair⟩ := hcall
          cases hpair
          exact readable_deliverWire _ _ _ _ _ _
      | login self un uinfo wantMode => cases List.mem_singleton.mp hcall
      | _ => cases hcall
  | _ => cases hcall

theorem Legible.step (hlegible : s.Legible) (hsteady : s.ListsSteadily event)
    (hstep : s.step cfg unpack event = some s') : s'.Legible := by
  refine ⟨fun c q' hreader' => ?_, fun c wire hcall => ?_⟩
  · rcases program_of_step hstep hreader' with ⟨hreader, -⟩ |
      ⟨h, body, -, -, rfl, -⟩ |
      ⟨env, q, op, rest, hevent, hreader, hprogram, hrest, -⟩
    · exact hlegible.handlers c q' hreader
    · exact ⟨none, by simp, passes_handleClientFrame _ unpack h body⟩
    · obtain ⟨listed, hlisted, hconforms⟩ := hlegible.handlers c q hreader
      rw [hprogram] at hconforms
      refine ⟨_, listed_of_exec cfg hsteady hevent hreader hprogram hlisted, ?_⟩
      rw [hrest]
      exact hconforms.2 _
  · rcases calls_of_step hstep with hsame | ⟨d, made, hkind, hcalls⟩ |
      ⟨d, env, q, op, -, hreader, hop, -, -, hcalls⟩
    · rw [hsame] at hcall
      exact hlegible.calls c wire hcall
    · rw [hcalls] at hcall
      rcases List.mem_append.mp hcall with hcall | hcall
      · exact hlegible.calls c wire hcall
      · cases List.mem_singleton.mp hcall
        rcases hkind with ⟨why, hmade⟩ | ⟨userReason, logWhy, hmade⟩ <;>
          cases hmade
    · rw [hcalls] at hcall
      rcases List.mem_append.mp hcall with hcall | hcall
      · exact hlegible.calls c wire hcall
      · obtain ⟨listed, hlisted, hconforms⟩ := hlegible.handlers d q hreader
        cases hprogram : q.program with
        | ret value => simp [Request.nextOp, hprogram, Prog.head?] at hop
        | op operation rest =>
            rw [Request.nextOp_of_program hprogram, Option.some.injEq] at hop
            subst hop
            rw [hprogram] at hconforms
            exact readable_of_op hconforms.1 hlisted hcall

theorem from_of_run {db : Db} {events : List Event}
    (hrun : Transition.run (step cfg unpack) events (initial db) = some s)
    (c : ConnId) :
    (s.hub.sessions c).From (framesTo c s.hub.calls) := by
  have hkept : s.EndingOk cfg ∧ s.Untouched ∧
      (s.hub.sessions c).From (framesTo c s.hub.calls) := by
    refine Transition.run_preserves_always
      (fun s : Server => s.EndingOk cfg ∧ s.Untouched ∧
        (s.hub.sessions c).From (framesTo c s.hub.calls)) ?_
      ⟨endingOk_initial db, fun _ _ => ⟨rfl, rfl⟩, by
        intro w hw
        cases hw⟩ hrun
    rintro s event s' ⟨hending, huntouched, hfrom⟩ hstep
    refine ⟨hending.step hstep, huntouched.step hending hstep, ?_⟩
    have hnone : s.hub.reg.nextConnId < c →
        itemsOf c ([] : List (ConnId × Effect)) = [] := fun _ => rfl
    exact session_ledger (P := fun _ sent s => s.From sent)
      (fun _ w hw => by cases hw)
      (fun _ _ _ made hbefore => hbefore.call made)
      (fun _ _ _ _ _ hbefore hio w hw =>
        hbefore w ((TcpSession.ioStep_line hio).subset hw))
      (fun _ _ _ hbefore => hbefore) huntouched hstep hnone hfrom
  exact hkept.2.2

/-- Every frame accepted into a queue or waiting on a strand can be read, in
every run in which `list_users` meets no closing socket. -/
theorem readable_of_run (cfg : Config) (unpack : Bytes → Option Obj) (db : Db)
    {events : List Event} {s : Server}
    (hsteady : Transition.Along (step cfg unpack) ListsSteadily events
      (initial db))
    (hrun : Transition.run (step cfg unpack) events (initial db) = some s)
    (c : ConnId) : ∀ w ∈ (s.hub.sessions c).line, w.Readable := by
  have hlegible : s.Legible := Transition.run_preserves Legible
    (fun _ _ _ hbefore hgood hstep => hbefore.step hgood hstep)
    (legible_initial db) hsteady hrun
  intro w hw
  rcases from_of_run hrun c w hw with hsent | ⟨reason, rfl⟩
  · obtain ⟨made, hmade, hwire⟩ := List.mem_filterMap.mp hsent
    cases made with
    | sendFrame wire =>
        cases hwire
        exact hlegible.calls c w (Hub.mem_callsOn.mp hmade)
    | _ => cases hwire
  · exact readable_kickWire reason

/-- `root` asks for the sessions and for the allowlist. -/
def sessionsAndAllowlist : List Event :=
  rootLogin ++ receive 1 kClientControl 2 [.map 1, .str (lit "action"),
      .str (lit "list_users")] ++ advances 1 3 ++
    receive 1 kClientControl 3 [.map 1, .str (lit "action"),
      .str (lit "allowlist_list")] ++ advances 1 3

theorem readable_of_run_sessionsAndAllowlist :
    ∃ s, Transition.run (step forwarderJson unpackFlat) sessionsAndAllowlist
        (initial emptyDb) = some s ∧
      (s.hub.sessions 1).line.length = 3 ∧
      ∀ w ∈ (s.hub.sessions 1).line, w.Readable := by
  obtain ⟨s, hrun, hthree⟩ : ∃ s, Transition.run
        (step forwarderJson unpackFlat) sessionsAndAllowlist
        (initial emptyDb) = some s ∧ (s.hub.sessions 1).line.length = 3 :=
    Transition.exists_run_of_check (by decide +kernel)
  exact ⟨s, hrun, hthree, readable_of_run forwarderJson unpackFlat emptyDb
    (Transition.along_of_check (by decide +kernel)) hrun 1⟩

end Server

end AsioForwarder
