import PersonTracking.Python.Json

/-!
# Kafka messages and dead letters

What both consumers share: the shape of a polled message, how its value is
decoded, and the record that moves an undecodable message to the dead-letter
topic.  Which bytes are JSON stays open: `ByteCodec` is the reader together
with the two texts the runtime derives from bytes it cannot read.
-/

namespace PersonTracking.Shared

open Python

/-- A message as the consumer polls it. -/
structure KafkaMessage where
  partition : ℕ
  offset : ℕ
  key : Option (List UInt8)
  value : Option (List UInt8)
deriving DecidableEq, Repr

/-- What a consumer's `poll` returns. -/
inductive Poll
  | nothing
  | partitionEof
  | failed
  | message (msg : KafkaMessage)
deriving DecidableEq, Repr

/-- Reading JSON from byte strings.  `loads` is `json.loads(raw.decode("utf-8"))`,
`errorText` is `str(e)` of the exception that decoding raises (there is one for
a message without a value, too), and `decodeReplacing` is
`raw.decode("utf-8", errors="replace")`. -/
structure ByteCodec where
  loads : List UInt8 → Option Json
  errorText : Option (List UInt8) → String
  decodeReplacing : List UInt8 → String

/-- `json.loads(msg.value().decode("utf-8"))`. -/
def ByteCodec.decode (codec : ByteCodec) (value : Option (List UInt8)) : Except String Json :=
  match value.bind codec.loads with
  | some payload => .ok payload
  | none => .error (codec.errorText value)

/-- A record written to a dead-letter topic; `value` is its JSON before encoding. -/
structure DlqRecord where
  topic : String
  key : Option (List UInt8)
  value : Json

/-- The dead letter of a message together with an error text: where it came
from, what went wrong and its raw value (`None` for an absent or empty one). -/
def rawDlqRecord (codec : ByteCodec) (topic : String) (msg : KafkaMessage) (error : String) :
    DlqRecord where
  topic := topic ++ ".DLQ"
  key := msg.key
  value := .obj [("source_topic", .str topic), ("partition", .int msg.partition),
    ("offset", .int msg.offset), ("error", .str error),
    ("raw_value",
      match msg.value with
      | none | some [] => .null
      | some bytes => .str (codec.decodeReplacing bytes))]

end PersonTracking.Shared
