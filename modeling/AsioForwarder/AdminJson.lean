import AsioForwarder.JsonWriter
import AsioForwarder.Registry
import Mathlib.Data.List.Induction

/-!
# The JSON of the admin port

`json_escape`, `push_event`, `build_events_json` and `build_users_json`.  The
texts are put together piece by piece; what they denote is stated through the
grammar of JSON, with the contents of a string as bytes.
-/

namespace AsioForwarder

open JsonText (Json Denotes Doc Leaves writeString)

/-! ## `push_event` -/

inductive Level where
  | info
  | warn
  | error
  | debug

def levelName : Level → Bytes
  | .info => lit "INFO"
  | .warn => lit "WARN"
  | .error => lit "ERROR"
  | .debug => lit "DEBUG"

/-- An `AdminEvent`; its level is kept as the one whose name it is. -/
structure AdminEvent where
  tsMs : Nat
  level : Level
  msg : Bytes

/-- Drop events from the front while there are more than `eventsMax`, which
fits an `int` as the number of events does. -/
def popFront (eventsMax : Int) : List AdminEvent → List AdminEvent
  | [] => []
  | ev :: events =>
      if (events.length + 1 : Int) > eventsMax then popFront eventsMax events
      else ev :: events

/-- `push_event`; the event comes with the time of the call. -/
def pushEvent (cfg : Config) (events : List AdminEvent) (ev : AdminEvent) :
    List AdminEvent :=
  if cfg.eventsMax ≤ 0 then events
  else popFront cfg.eventsMax (events ++ [ev])

/-! ## The texts -/

def jsonEscapeByte (c : UInt8) : Bytes :=
  if c = 0x22 then lit "\\\""
  else if c = 0x5c then lit "\\\\"
  else if c = 0x0a then lit "\\n"
  else if c = 0x0d then lit "\\r"
  else if c = 0x09 then lit "\\t"
  else if c < 0x20 then lit "?"
  else [c]

def jsonEscape (input : Bytes) : Bytes :=
  input.flatMap jsonEscapeByte

/-- A loop which puts a comma before every item but the first. -/
def appendItems {α : Type} (item : α → Bytes) (items : List α) (j : Bytes) :
    Bytes :=
  (items.foldl
    (fun (acc : Bool × Bytes) x =>
      (false, (if acc.1 then acc.2 else acc.2 ++ lit ",") ++ item x))
    (true, j)).2

def eventText (e : AdminEvent) : Bytes :=
  lit "\x7b" ++
    (lit "\"ts_ms\":" ++ toDecimal e.tsMs ++ lit ",") ++
    (lit "\"level\":\"" ++ levelName e.level ++ lit "\",") ++
    (lit "\"msg\":\"" ++ jsonEscape e.msg ++ lit "\"") ++
    lit "\x7d"

def buildEventsJson (events : List AdminEvent) : Bytes :=
  appendItems eventText events (lit "\x7b\"events\":[") ++ lit "]\x7d"

/-- What `build_users_json` asks a session for. -/
structure SessionView where
  loggedIn : ConnId → Bool
  isAdminAccount : ConnId → Bool
  isOpen : ConnId → Bool
  endpointStr : ConnId → Bytes
  pendingBytes : ConnId → Nat

namespace Registry

/-- The name of the account, empty when none is cached. -/
def cachedName (r : Registry) (uid : Nat) : Bytes :=
  match r.uidToUsername.lookup uid with
  | some name => name
  | none => []

/-- The first session that is logged in decides. -/
def showsAdmin (view : SessionView) (dq : List ConnId) : Bool :=
  match dq.find? view.loggedIn with
  | some c => view.isAdminAccount c
  | none => false

def shownMode (r : Registry) (uid : Nat) : Bytes :=
  match r.userRecvMode.lookup uid with
  | some mode => recvModeCstr mode
  | none => lit "broadcast"

def connectionText (view : SessionView) (c : ConnId) : Bytes :=
  lit "\x7b\"conn_id\":" ++ toDecimal c ++
    (lit ",\"endpoint\":\"" ++ jsonEscape (view.endpointStr c) ++
      lit "\",\"pending_bytes\":" ++ toDecimal (view.pendingBytes c) ++
      lit "\x7d")

def accountText (view : SessionView) (r : Registry)
    (kv : Σ _ : Nat, List ConnId) : Bytes :=
  appendItems (connectionText view) (kv.2.filter view.isOpen)
    (lit "\x7b\"user_id\":" ++ toDecimal kv.1 ++
      (lit ",\"username\":\"" ++ jsonEscape (r.cachedName kv.1) ++ lit "\"") ++
      (lit ",\"is_admin\":" ++
        if showsAdmin view kv.2 then lit "true" else lit "false") ++
      (lit ",\"recv_mode\":\"" ++ jsonEscape (r.shownMode kv.1) ++ lit "\"") ++
      lit ",\"connections\":[") ++
  lit "]\x7d"

def buildUsersJson (view : SessionView) (r : Registry) : Bytes :=
  appendItems (accountText view r) r.userDeque.entries
    (lit "\x7b\"users\":[") ++ lit "]\x7d"

end Registry

/-! ## What they denote -/

/-- Control bytes other than newline, carriage return and tab become question
marks. -/
def sanitize (s : Bytes) : Bytes :=
  s.map (fun c =>
    if c < 0x20 ∧ c ≠ 0x0a ∧ c ≠ 0x0d ∧ c ≠ 0x09 then 0x3f else c)

def eventJson (e : AdminEvent) : Json :=
  .object [(lit "ts_ms", .number e.tsMs 0),
    (lit "level", .string (levelName e.level)),
    (lit "msg", .string (sanitize e.msg))]

def eventsJson (events : List AdminEvent) : Json :=
  .object [(lit "events", .array (events.map eventJson))]

namespace Registry

def connectionJson (view : SessionView) (c : ConnId) : Json :=
  .object [(lit "conn_id", .number c 0),
    (lit "endpoint", .string (sanitize (view.endpointStr c))),
    (lit "pending_bytes", .number (view.pendingBytes c) 0)]

def accountJson (view : SessionView) (r : Registry)
    (kv : Σ _ : Nat, List ConnId) : Json :=
  .object [(lit "user_id", .number kv.1 0),
    (lit "username", .string (sanitize (r.cachedName kv.1))),
    (lit "is_admin", .bool (showsAdmin view kv.2)),
    (lit "recv_mode", .string (r.shownMode kv.1)),
    (lit "connections",
      .array ((kv.2.filter view.isOpen).map (connectionJson view)))]

def usersJson (view : SessionView) (r : Registry) : Json :=
  .object [(lit "users",
    .array (r.userDeque.entries.map (accountJson view r)))]

end Registry

/-! ## The events kept -/

theorem popFront_eq_drop (eventsMax : Int) (events : List AdminEvent) :
    popFront eventsMax events =
      events.drop (events.length - eventsMax.toNat) := by
  induction events with
  | nil => rw [popFront, List.drop_nil]
  | cons ev events ih =>
      rw [popFront]
      split
      · rename_i hmore
        rw [ih, show (ev :: events).length - eventsMax.toNat =
          events.length - eventsMax.toNat + 1 by
            rw [List.length_cons]; omega, List.drop_succ_cons]
      · rename_i hfits
        rw [show (ev :: events).length - eventsMax.toNat = 0 by
          rw [List.length_cons]; omega, List.drop_zero]

/-- The buffer holds the last events of those pushed. -/
theorem foldl_pushEvent (cfg : Config) (pushed : List AdminEvent) :
    pushed.foldl (pushEvent cfg) [] =
      pushed.drop (pushed.length - min pushed.length cfg.eventsMax.toNat) := by
  induction pushed using List.reverseRecOn with
  | nil => rfl
  | append_singleton pushed ev ih =>
      have hlength : (pushed ++ [ev]).length = pushed.length + 1 := by
        rw [List.length_append, List.length_singleton]
      rw [List.foldl_append, List.foldl_cons, List.foldl_nil, ih, pushEvent,
        hlength]
      split
      · rename_i hnone
        rw [List.drop_of_length_le (by omega),
          List.drop_of_length_le (by rw [hlength]; omega)]
      · rename_i hsome
        have hkept : pushed.drop
              (pushed.length - min pushed.length cfg.eventsMax.toNat) ++
            [ev] = (pushed ++ [ev]).drop
              (pushed.length - min pushed.length cfg.eventsMax.toNat) :=
          (List.drop_append_of_le_length (by omega)).symm
        rw [popFront_eq_drop, hkept, List.drop_drop, List.length_drop,
          hlength]
        congr 1
        omega

/-! ## Escaping -/

theorem readString_jsonEscapeByte (c : UInt8) (more : Bytes) :
    JsonText.readString (jsonEscapeByte c ++ more) =
      (JsonText.readString more).map (JsonText.prepend (sanitize [c])) := by
  by_cases hescaped : c = 0x22 ∨ c = 0x5c ∨ c = 0x0a ∨ c = 0x0d ∨ c = 0x09
  · rcases hescaped with rfl | rfl | rfl | rfl | rfl
    all_goals exact JsonText.readString_escaped (by decide) rfl more
  · obtain ⟨hquote, hslash, hnewline, hreturn, htab⟩ :
        c ≠ 0x22 ∧ c ≠ 0x5c ∧ c ≠ 0x0a ∧ c ≠ 0x0d ∧ c ≠ 0x09 := by
      tauto
    rw [jsonEscapeByte, if_neg hquote, if_neg hslash, if_neg hnewline,
      if_neg hreturn, if_neg htab, sanitize, List.map_singleton]
    by_cases hcontrol : c < 0x20
    · rw [if_pos hcontrol, if_pos ⟨hcontrol, hnewline, hreturn, htab⟩]
      exact JsonText.readString_plain (by decide) (by decide) (by decide) more
    · rw [if_neg hcontrol, if_neg (fun hc => hcontrol hc.1)]
      exact JsonText.readString_plain hquote hslash hcontrol more

theorem leaves_jsonEscape : Leaves jsonEscape sanitize := by
  intro contents rest
  induction contents with
  | nil => exact JsonText.readString_quote rest
  | cons c contents ih =>
      rw [jsonEscape, List.flatMap_cons, List.append_assoc,
        readString_jsonEscapeByte]
      rw [jsonEscape] at ih
      rw [ih]
      rfl

/-! ## The texts as documents -/

theorem appendItems_eq {α : Type} {item : α → Bytes} {doc : α → Doc}
    (hitem : ∀ x, item x = (doc x).write jsonEscape) (items : List α)
    (j : Bytes) :
    appendItems item items j =
      j ++ JsonText.writeElements jsonEscape (items.map doc) := by
  have hmore : ∀ (items : List α) (j : Bytes),
      (items.foldl
        (fun (acc : Bool × Bytes) x =>
          (false, (if acc.1 then acc.2 else acc.2 ++ lit ",") ++ item x))
        (false, j)).2 =
        j ++ JsonText.writeMoreElements jsonEscape (items.map doc) := by
    intro items
    induction items with
    | nil =>
        intro j
        rw [List.map_nil, JsonText.writeMoreElements, List.append_nil]
        rfl
    | cons x items ih =>
        intro j
        rw [List.foldl_cons, ih, List.map_cons, JsonText.writeMoreElements,
          hitem, if_neg Bool.false_ne_true, List.append_assoc,
          List.append_assoc]
        rfl
  cases items with
  | nil =>
      rw [List.map_nil, JsonText.writeElements, List.append_nil]
      rfl
  | cons x items =>
      rw [appendItems, List.foldl_cons, hmore, List.map_cons,
        JsonText.writeElements, hitem, if_pos rfl, List.append_assoc]

def eventDoc (e : AdminEvent) : Doc :=
  .record [(lit "ts_ms", .nat e.tsMs), (lit "level", .text (levelName e.level)),
    (lit "msg", .text e.msg)]

theorem eventText_eq (e : AdminEvent) :
    eventText e = (eventDoc e).write jsonEscape := by
  have hlevel : jsonEscape (levelName e.level) = levelName e.level := by
    cases e.level <;> rfl
  simp only [eventText, eventDoc, Doc.write, JsonText.writeFields,
    JsonText.writeMoreFields, writeString, hlevel, List.append_assoc,
    List.cons_append]
  rfl

namespace Registry

def connectionDoc (view : SessionView) (c : ConnId) : Doc :=
  .record [(lit "conn_id", .nat c),
    (lit "endpoint", .text (view.endpointStr c)),
    (lit "pending_bytes", .nat (view.pendingBytes c))]

def accountDoc (view : SessionView) (r : Registry)
    (kv : Σ _ : Nat, List ConnId) : Doc :=
  .record [(lit "user_id", .nat kv.1),
    (lit "username", .text (r.cachedName kv.1)),
    (lit "is_admin", .flag (showsAdmin view kv.2)),
    (lit "recv_mode", .text (r.shownMode kv.1)),
    (lit "connections",
      .list ((kv.2.filter view.isOpen).map (connectionDoc view)))]

theorem connectionText_eq (view : SessionView) (c : ConnId) :
    connectionText view c = (connectionDoc view c).write jsonEscape := by
  simp only [connectionText, connectionDoc, Doc.write, JsonText.writeFields,
    JsonText.writeMoreFields, writeString, List.append_assoc,
    List.cons_append]
  rfl

theorem accountText_eq (view : SessionView) (r : Registry)
    (kv : Σ _ : Nat, List ConnId) :
    accountText view r kv = (accountDoc view r kv).write jsonEscape := by
  rw [accountText, appendItems_eq (connectionText_eq view)]
  simp only [accountDoc, Doc.write, JsonText.writeFields,
    JsonText.writeMoreFields, writeString, List.append_assoc,
    List.cons_append]
  cases showsAdmin view kv.2
  all_goals rfl

end Registry

/-! ## Their values -/

theorem elementValues_map {α : Type} {doc : α → Doc} {json : α → Json}
    (hvalue : ∀ x, (doc x).value sanitize = json x) (items : List α) :
    JsonText.elementValues sanitize (items.map doc) = items.map json := by
  induction items with
  | nil => rw [List.map_nil, JsonText.elementValues, List.map_nil]
  | cons x items ih =>
      rw [List.map_cons, JsonText.elementValues, hvalue, ih, List.map_cons]

theorem eventDoc_value (e : AdminEvent) :
    (eventDoc e).value sanitize = eventJson e := by
  have hlevel : sanitize (levelName e.level) = levelName e.level := by
    cases e.level <;> rfl
  simp only [eventDoc, Doc.value, JsonText.fieldValues, hlevel, eventJson]
  rfl

def eventsDoc (events : List AdminEvent) : Doc :=
  .record [(lit "events", .list (events.map eventDoc))]

theorem buildEventsJson_eq (events : List AdminEvent) :
    buildEventsJson events = (eventsDoc events).write jsonEscape := by
  rw [buildEventsJson, appendItems_eq eventText_eq]
  simp only [eventsDoc, Doc.write, JsonText.writeFields,
    JsonText.writeMoreFields, writeString, List.append_assoc,
    List.cons_append]
  rfl

theorem eventsDoc_value (events : List AdminEvent) :
    (eventsDoc events).value sanitize = eventsJson events := by
  simp only [eventsDoc, Doc.value, JsonText.fieldValues,
    elementValues_map eventDoc_value, eventsJson]
  rfl

namespace Registry

theorem connectionDoc_value (view : SessionView) (c : ConnId) :
    (connectionDoc view c).value sanitize = connectionJson view c := by
  simp only [connectionDoc, Doc.value, JsonText.fieldValues, connectionJson]
  rfl

theorem sanitize_shownMode (r : Registry) (uid : Nat) :
    sanitize (r.shownMode uid) = r.shownMode uid := by
  rw [shownMode]
  cases r.userRecvMode.lookup uid with
  | none => rfl
  | some mode => cases mode <;> rfl

theorem accountDoc_value (view : SessionView) (r : Registry)
    (kv : Σ _ : Nat, List ConnId) :
    (accountDoc view r kv).value sanitize = accountJson view r kv := by
  simp only [accountDoc, Doc.value, JsonText.fieldValues,
    elementValues_map (connectionDoc_value view), sanitize_shownMode,
    accountJson]
  rfl

def usersDoc (view : SessionView) (r : Registry) : Doc :=
  .record [(lit "users",
    .list (r.userDeque.entries.map (accountDoc view r)))]

theorem buildUsersJson_eq (view : SessionView) (r : Registry) :
    r.buildUsersJson view = (usersDoc view r).write jsonEscape := by
  rw [buildUsersJson, appendItems_eq (accountText_eq view r)]
  simp only [usersDoc, Doc.write, JsonText.writeFields,
    JsonText.writeMoreFields, writeString, List.append_assoc,
    List.cons_append]
  rfl

theorem usersDoc_value (view : SessionView) (r : Registry) :
    (usersDoc view r).value sanitize = usersJson view r := by
  simp only [usersDoc, Doc.value, JsonText.fieldValues,
    elementValues_map (accountDoc_value view r), usersJson]
  rfl

end Registry

end AsioForwarder
