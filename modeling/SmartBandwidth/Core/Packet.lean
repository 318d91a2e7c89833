import SmartBandwidth.Core.Config

/-!
# Packets and the objects that hold them

A packet is a mutable object of the source: the classifier, the value policy, the
compressor and the scheduler all write to it, and a queue keeps a reference to it.
The model therefore passes packets by reference and threads the store the
references point into.
-/

namespace SmartBandwidth

/-- Exceptions raised by the modelled code and by the libraries it calls. -/
inductive PyError where
  | valueError (message : String)
  | reError
  | zlibError
  deriving DecidableEq, Repr

/-- A sequence that ends well passed through a first result. -/
theorem PyError.of_bind_eq_ok {α β : Type} {first : Except PyError α}
    {next : α → Except PyError β} {result : β} (finished : (first >>= next) = .ok result) :
    ∃ value, first = .ok value ∧ next value = .ok result := by
  cases first with
  | error raised => cases finished
  | ok value => exact ⟨value, rfl, finished⟩

/-- What the pipeline uses of the interpreter's libraries: `str.lower`,
`re.search(pattern, text, re.IGNORECASE)` and `zlib.compress(data, level)`. -/
structure Runtime where
  lower : String → String
  search : String → String → Except PyError Bool
  zlibCompress : List UInt8 → Int → Except PyError (List UInt8)

/-- A runtime whose regular-expression search is a total predicate. -/
def Runtime.ofSearch (lower : String → String) (search : String → String → Bool) :
    Runtime where
  lower := lower
  search := fun pattern text => .ok (search pattern text)
  zlibCompress := fun _ _ => .error .zlibError

/-- A runtime that lower-cases nothing, finds nothing and cannot compress. -/
def Runtime.plain : Runtime := .ofSearch id fun _ _ => false

/-- A network packet. -/
structure Packet where
  srcIp : String := "0.0.0.0"
  dstIp : String := "0.0.0.0"
  srcPort : Int := 0
  dstPort : Int := 0
  protocol : String := "tcp"
  payload : List UInt8 := []
  sizeBytes : Int := 0
  priority : Option TrafficPriority := none
  enqueuedAt : Option ℚ := none
  valueCoefficient : ℚ := 1
  deriving DecidableEq, Repr

/-- The packet a constructor call yields: an unset size becomes the payload length. -/
def Packet.postInit (packet : Packet) : Packet :=
  if packet.sizeBytes = 0 then
    { packet with sizeBytes := packet.payload.length }
  else
    packet

/-- The class the filter and the schedulers use: `packet.priority or MEDIUM`. -/
def Packet.effectivePriority (packet : Packet) : TrafficPriority :=
  packet.priority.getD .medium

/-- Stamp the time of arrival in a queue. -/
def Packet.stamped (packet : Packet) (now : ℚ) : Packet :=
  { packet with enqueuedAt := some now }

/-- Identity of a packet object. -/
abbrev PacketRef := Nat

/-- The packet objects at one moment. -/
abbrev Store := PacketRef → Packet

/-- Assign to the fields of one object. -/
def Store.set (store : Store) (ref : PacketRef) (packet : Packet) : Store :=
  fun query => if query = ref then packet else store query

namespace Store

@[simp] theorem set_self (store : Store) (ref : PacketRef) (packet : Packet) :
    store.set ref packet ref = packet := by
  simp [set]

@[simp] theorem set_of_ne (store : Store) {ref query : PacketRef} (packet : Packet)
    (different : query ≠ ref) : store.set ref packet query = store query := by
  simp [set, different]

@[simp] theorem set_current (store : Store) (ref : PacketRef) :
    store.set ref (store ref) = store := by
  funext query
  by_cases same : query = ref
  · rw [same, set_self]
  · rw [set_of_ne _ _ same]

@[simp] theorem set_set (store : Store) (ref : PacketRef) (first second : Packet) :
    (store.set ref first).set ref second = store.set ref second := by
  funext query
  by_cases same : query = ref
  · subst same
    rw [set_self, set_self]
  · rw [set_of_ne _ _ same, set_of_ne _ _ same, set_of_ne _ _ same]

end Store

end SmartBandwidth
