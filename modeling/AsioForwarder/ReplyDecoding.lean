import AsioForwarder.FrameContent
import AsioForwarder.SdkEvent

/-!
# Replies as the client reads them

Every reply of the server is a map which starts with `ok`, and the client
keeps of it the sequence number, `ok`, `op` and a message.
-/

namespace AsioForwarder

namespace RelayClient

theorem eventOfWire_replyWire (seq : UInt32) (body : List Tok) :
    eventOfWire (replyWire seq body) =
      match unpackToks body with
      | none => none
      | some (.map entries) =>
          some (.serverReply (replyFields entries { seq := seq }))
      | some _ => some (.serverReply { seq := seq }) := rfl

@[simp] theorem eventOfWire_errReplyWire (seq : UInt32) (code : Nat)
    (message : Bytes) :
    eventOfWire (errReplyWire seq code message) =
      some (.serverReply { seq := seq, ok := false, message := message }) :=
  rfl

@[simp] theorem eventOfWire_okReplyWire (seq : UInt32) (op : Bytes) :
    eventOfWire (okReplyWire seq op) =
      some (.serverReply { seq := seq, ok := true, op := op }) := rfl

def reportBody (key : Bytes) (value : List Tok) : List Tok :=
  [.map 3, .str (lit "ok"), .bool true, .str (lit "op"),
    .str (lit "CONTROL"), .str key] ++ value

theorem unpackToks_reportBody (key : Bytes) (value : List Tok) :
    unpackToks (reportBody key value) =
      (readTok (2 * value.length + 8) value).map (fun read =>
        Obj.map [(.str (lit "ok"), .boolean true),
          (.str (lit "op"), .str (lit "CONTROL")), (.str key, read.1)]) := by
  have hfuel : 2 * (reportBody key value).length =
      (2 * value.length + 8) + 4 := by
    simp only [reportBody, List.length_append, List.length_cons,
      List.length_nil]
    omega
  unfold unpackToks
  rw [hfuel]
  simp only [reportBody, List.cons_append, List.nil_append, readTok_map,
    readEntries_succ, readEntries_zero, readTok_str, readTok_bool,
    Option.bind_some, Option.map_some]
  cases readTok (2 * value.length + 8) value <;> rfl

theorem eventOfWire_report (seq : UInt32) {key : Bytes}
    (hkey : key ∉ replyKeys) (value : List Tok) :
    eventOfWire (replyWire seq (reportBody key value)) = none ∨
    eventOfWire (replyWire seq (reportBody key value)) =
      some (.serverReply { seq := seq, ok := true, op := lit "CONTROL" }) := by
  rw [eventOfWire_replyWire, unpackToks_reportBody]
  cases readTok (2 * value.length + 8) value with
  | none => exact .inl rfl
  | some read =>
      right
      simp only [replyKeys, List.mem_cons, List.not_mem_nil, or_false,
        not_or] at hkey
      obtain ⟨hok, hop, hmessage, herror⟩ := hkey
      obtain ⟨obj, rest⟩ := read
      cases obj with
      | boolean value => simp [replyFields, hok]
      | str value => simp [replyFields, hop, hmessage, herror]
      | _ => simp [replyFields]

theorem listUsersBody_eq (openWhenCounted openWhenListed : ConnId → Bool)
    (endpointStr : ConnId → Bytes) (r : Registry) :
    ∃ value, r.listUsersBody openWhenCounted openWhenListed endpointStr =
      reportBody (lit "users") value :=
  ⟨_, rfl⟩

end RelayClient

end AsioForwarder
