import SmartBandwidth.Core.Packet

/-!
# Parsing a raw datagram

The parser reads offsets out of the datagram itself and checks the length twice: for the
fixed part of the IPv4 header and, for TCP and UDP, for eight bytes behind the header. It
rejects what fails these checks and the version check, and nothing else.
-/

namespace SmartBandwidth

namespace NFQueue

/-- What indexing, `struct` and `ipaddress` raise. -/
inductive ParseError where
  | indexError
  | structError
  | addressValueError
  deriving DecidableEq, Repr

/-- `raw[index]`. -/
def byteAt (raw : List UInt8) (index : Nat) : Except ParseError UInt8 :=
  match raw[index]? with
  | some byte => .ok byte
  | none => .error .indexError

/-- `(byte >> 4) & 0xF`. -/
def highNibble (byte : UInt8) : Nat := ((byte >>> 4) &&& 0xF).toNat

/-- `byte & 0xF`. -/
def lowNibble (byte : UInt8) : Nat := (byte &&& 0xF).toNat

/-- `struct.unpack_from("!HH", raw, offset)`: two big-endian numbers of two bytes. -/
def unpackPorts (raw : List UInt8) (offset : Nat) : Except ParseError (Nat × Nat) :=
  match raw.drop offset with
  | srcHigh :: srcLow :: dstHigh :: dstLow :: _ =>
      .ok (256 * srcHigh.toNat + srcLow.toNat, 256 * dstHigh.toNat + dstLow.toNat)
  | _ => .error .structError

/-- `str(ipaddress.IPv4Address(octets))`. -/
def ipv4Text (octets : List UInt8) : Except ParseError String :=
  if octets.length = 4 then
    .ok (String.intercalate "." (octets.map fun octet => toString octet.toNat))
  else
    .error .addressValueError

/-- `_PROTO_MAP`. -/
def protoMap : UInt8 → Option String
  | 1 => some "icmp"
  | 6 => some "tcp"
  | 17 => some "udp"
  | 58 => some "icmpv6"
  | _ => none

/-- `_PROTO_MAP.get(proto_num, str(proto_num))`. -/
def protocolText (protoNum : UInt8) : String :=
  (protoMap protoNum).getD (toString protoNum.toNat)

/-- What the parser reads behind the IPv4 header. -/
structure Transport where
  srcPort : Nat
  dstPort : Nat
  payloadStart : Nat
  deriving DecidableEq, Repr

/-- The TCP and UDP branch of the parser, behind a header of `ihl` bytes; `none` where it
returns early. -/
def parseTransport (raw : List UInt8) (ihl : Nat) (protoNum : UInt8) :
    Except ParseError (Option Transport) :=
  if protoNum = 6 ∨ protoNum = 17 then
    if raw.length < ihl + 8 then
      .ok none
    else do
      let (srcPort, dstPort) ← unpackPorts raw ihl
      if protoNum = 6 then
        let offsetByte ← byteAt raw (ihl + 12)
        .ok (some ⟨srcPort, dstPort, ihl + highNibble offsetByte * 4⟩)
      else
        .ok (some ⟨srcPort, dstPort, ihl + 8⟩)
  else
    .ok (some ⟨0, 0, ihl⟩)

/-- The packet the parser builds from what it has read. -/
def packetOf (raw : List UInt8) (srcIp dstIp protocol : String) (transport : Transport) : Packet :=
  Packet.postInit {
    srcIp := srcIp
    dstIp := dstIp
    srcPort := transport.srcPort
    dstPort := transport.dstPort
    protocol := protocol
    payload := raw.drop transport.payloadStart
    sizeBytes := raw.length }

/-- `_parse_ip_packet`. -/
def parseIpPacket (raw : List UInt8) : Except ParseError (Option Packet) :=
  if raw.length < 20 then
    .ok none
  else do
    let first ← byteAt raw 0
    if highNibble first ≠ 4 then
      .ok none
    else
      let ihl := lowNibble first * 4
      let protoNum ← byteAt raw 9
      let srcIp ← ipv4Text ((raw.drop 12).take 4)
      let dstIp ← ipv4Text ((raw.drop 16).take 4)
      let transport ← parseTransport raw ihl protoNum
      .ok (transport.map (packetOf raw srcIp dstIp (protocolText protoNum)))

/-! ## The header fields -/

/-- The byte at an offset. -/
def octet (raw : List UInt8) (index : Nat) : UInt8 := raw.getD index 0

/-- The version field. -/
def version (raw : List UInt8) : Nat := highNibble (octet raw 0)

/-- The IPv4 header length field, in words of four bytes. -/
def headerWords (raw : List UInt8) : Nat := lowNibble (octet raw 0)

/-- Where the IPv4 header says it ends. -/
def headerEnd (raw : List UInt8) : Nat := headerWords raw * 4

/-- The protocol field. -/
def protocolNumber (raw : List UInt8) : UInt8 := octet raw 9

/-- The TCP data offset field, in words of four bytes. -/
def dataOffset (raw : List UInt8) : Nat := highNibble (octet raw (headerEnd raw + 12))

/-- A datagram whose IPv4, TCP or UDP header does not fit in it, or is shorter than its kind
of header is. -/
def Malformed (raw : List UInt8) : Prop :=
  headerWords raw < 5 ∨ raw.length < headerEnd raw ∨
    (protocolNumber raw = 6 ∧ (raw.length < headerEnd raw + 20 ∨ dataOffset raw < 5 ∨
      raw.length < headerEnd raw + dataOffset raw * 4)) ∨
    (protocolNumber raw = 17 ∧ raw.length < headerEnd raw + 8)

/-- A datagram that the parser's guards reject. -/
def Rejected (raw : List UInt8) : Prop :=
  raw.length < 20 ∨ version raw ≠ 4 ∨
    ((protocolNumber raw = 6 ∨ protocolNumber raw = 17) ∧ raw.length < headerEnd raw + 8)

/-- What the parser makes of a datagram. -/
inductive Parses (raw : List UInt8) : Except ParseError (Option Packet) → Prop where
  | rejected : Rejected raw → Parses raw (.ok none)
  | offsetMissing : ¬Rejected raw → protocolNumber raw = 6 → raw.length ≤ headerEnd raw + 12 →
      Parses raw (.error .indexError)
  | parsed {packet : Packet} : ¬Rejected raw → packet.sizeBytes = raw.length →
      packet.payload <:+ raw → Parses raw (.ok (some packet))

variable {raw : List UInt8}

/-! ## Reads -/

theorem byteAt_of_lt {index : Nat} (inside : index < raw.length) :
    byteAt raw index = .ok (octet raw index) := by
  rw [byteAt, octet, List.getD_eq_getElem?_getD, List.getElem?_eq_getElem inside, Option.getD_some]

theorem byteAt_of_le {index : Nat} (outside : raw.length ≤ index) :
    byteAt raw index = .error .indexError := by
  rw [byteAt, List.getElem?_eq_none outside]

/-- Two ports are read wherever four bytes are left. -/
theorem unpackPorts_reads {offset : Nat} (fits : offset + 4 ≤ raw.length) :
    ∃ ports, unpackPorts raw offset = .ok ports := by
  have left : 4 ≤ (raw.drop offset).length := by
    rw [List.length_drop]
    omega
  unfold unpackPorts
  match raw.drop offset, left with
  | srcHigh :: srcLow :: dstHigh :: dstLow :: rest, _ => exact ⟨_, rfl⟩

/-- Four bytes of a datagram are an address. -/
theorem ipv4Text_slice {start : Nat} (fits : start + 4 ≤ raw.length) :
    ∃ text, ipv4Text ((raw.drop start).take 4) = .ok text := by
  have four : ((raw.drop start).take 4).length = 4 := by
    rw [List.length_take, List.length_drop]
    omega
  exact ⟨_, if_pos four⟩

/-! ## The transport header -/

theorem parseTransport_short {ihl : Nat} {protoNum : UInt8} (ported : protoNum = 6 ∨ protoNum = 17)
    (short : raw.length < ihl + 8) : parseTransport raw ihl protoNum = .ok none := by
  rw [parseTransport, if_pos ported, if_pos short]

/-- The eight bytes that the guard asks for do not reach the TCP data offset. -/
theorem parseTransport_offsetMissing {ihl : Nat} (guarded : ihl + 8 ≤ raw.length)
    (missing : raw.length ≤ ihl + 12) :
    parseTransport raw ihl 6 = .error .indexError := by
  obtain ⟨ports, unpacked⟩ := unpackPorts_reads (show ihl + 4 ≤ raw.length by omega)
  rw [parseTransport, if_pos (.inl rfl), if_neg (not_lt.mpr guarded), unpacked]
  simp only [bind, Except.bind, byteAt_of_le missing, if_true]

/-- Past the guard, and with the TCP data offset in the datagram, a transport header is read. -/
theorem parseTransport_reads {ihl : Nat} {protoNum : UInt8}
    (guarded : protoNum = 6 ∨ protoNum = 17 → ihl + 8 ≤ raw.length)
    (present : protoNum = 6 → ihl + 12 < raw.length) :
    ∃ transport, parseTransport raw ihl protoNum = .ok (some transport) := by
  unfold parseTransport
  split
  next ported =>
    obtain ⟨ports, unpacked⟩ := unpackPorts_reads (show ihl + 4 ≤ raw.length by
      have := guarded ported
      omega)
    rw [if_neg (not_lt.mpr (guarded ported)), unpacked]
    simp only [bind, Except.bind]
    split
    next tcp =>
      rw [byteAt_of_lt (present tcp)]
      exact ⟨_, rfl⟩
    next => exact ⟨_, rfl⟩
  next => exact ⟨_, rfl⟩

/-! ## The datagram -/

/-- Behind the checks of length and version, the transport header decides the answer. -/
theorem parseIpPacket_eq (long : 20 ≤ raw.length) (four : version raw = 4) :
    ∃ srcIp dstIp, parseIpPacket raw =
      (parseTransport raw (headerEnd raw) (protocolNumber raw)).map
        (Option.map (packetOf raw srcIp dstIp (protocolText (protocolNumber raw)))) := by
  obtain ⟨srcIp, srcRead⟩ := ipv4Text_slice (show 12 + 4 ≤ raw.length by omega)
  obtain ⟨dstIp, dstRead⟩ := ipv4Text_slice (show 16 + 4 ≤ raw.length by omega)
  refine ⟨srcIp, dstIp, ?_⟩
  have supported : ¬highNibble (octet raw 0) ≠ 4 := not_not.mpr four
  rw [parseIpPacket, if_neg (not_lt.mpr long), byteAt_of_lt (show 0 < raw.length by omega)]
  simp only [bind, Except.bind, if_neg supported, byteAt_of_lt (show 9 < raw.length by omega),
    srcRead, dstRead]
  rw [← protocolNumber, ← headerWords, ← headerEnd]
  cases parseTransport raw (headerEnd raw) (protocolNumber raw) with
  | error raised => rfl
  | ok transport => rfl

theorem parseIpPacket_rejected (rejected : Rejected raw) : parseIpPacket raw = .ok none := by
  by_cases long : raw.length < 20
  · rw [parseIpPacket, if_pos long]
  · by_cases four : version raw = 4
    · obtain short | unsupported | ⟨ported, short⟩ := rejected
      · exact absurd short long
      · exact absurd four unsupported
      · obtain ⟨srcIp, dstIp, parsed⟩ := parseIpPacket_eq (not_lt.mp long) four
        rw [parsed, parseTransport_short ported short]
        rfl
    · have unsupported : highNibble (octet raw 0) ≠ 4 := four
      rw [parseIpPacket, if_neg long, byteAt_of_lt (show 0 < raw.length by omega)]
      simp only [bind, Except.bind, if_pos unsupported]

/-- The packet is as large as the datagram, and its payload is the rest of it. -/
theorem packetOf_fits (long : 20 ≤ raw.length) (srcIp dstIp protocol : String)
    (transport : Transport) :
    (packetOf raw srcIp dstIp protocol transport).sizeBytes = raw.length ∧
      (packetOf raw srcIp dstIp protocol transport).payload <:+ raw := by
  have sized : ¬((raw.length : Int) = 0) := by omega
  rw [packetOf, Packet.postInit, if_neg sized]
  exact ⟨rfl, List.drop_suffix _ _⟩

/-- Every datagram is rejected, parsed, or read past its end for a TCP data offset. -/
theorem parseIpPacket_parses (raw : List UInt8) : Parses raw (parseIpPacket raw) := by
  by_cases rejected : Rejected raw
  · rw [parseIpPacket_rejected rejected]
    exact .rejected rejected
  · have long : 20 ≤ raw.length := not_lt.mp fun short => rejected (.inl short)
    have four : version raw = 4 :=
      not_not.mp fun unsupported => rejected (.inr (.inl unsupported))
    have guarded (ported : protocolNumber raw = 6 ∨ protocolNumber raw = 17) :
        headerEnd raw + 8 ≤ raw.length :=
      not_lt.mp fun short => rejected (.inr (.inr ⟨ported, short⟩))
    obtain ⟨srcIp, dstIp, parsed⟩ := parseIpPacket_eq long four
    rw [parsed]
    by_cases missing : protocolNumber raw = 6 ∧ raw.length ≤ headerEnd raw + 12
    · rw [missing.1, parseTransport_offsetMissing (guarded (.inl missing.1)) missing.2]
      exact .offsetMissing rejected missing.1 missing.2
    · have present (tcp : protocolNumber raw = 6) : headerEnd raw + 12 < raw.length :=
        not_le.mp fun outside => missing ⟨tcp, outside⟩
      obtain ⟨transport, read⟩ := parseTransport_reads guarded present
      obtain ⟨sized, suffix⟩ := packetOf_fits long srcIp dstIp
        (protocolText (protocolNumber raw)) transport
      rw [read]
      exact .parsed rejected sized suffix

/-- The parser answers, and answers `none` to a malformed datagram, exactly when one of its
guards rejects the datagram or the datagram is not malformed. -/
theorem parseIpPacket_answers_iff (raw : List UInt8) :
    (∃ answer, parseIpPacket raw = .ok answer ∧ (Malformed raw → answer = none)) ↔
      Rejected raw ∨ ¬Malformed raw := by
  have parses := parseIpPacket_parses raw
  generalize parseIpPacket raw = outcome at parses
  cases parses with
  | rejected rejected => exact iff_of_true ⟨none, rfl, fun _ => rfl⟩ (.inl rejected)
  | offsetMissing accepted tcp missing =>
      have malformed : Malformed raw := .inr (.inr (.inl ⟨tcp, .inl (by omega)⟩))
      refine iff_of_false ?_ (not_or.mpr ⟨accepted, not_not.mpr malformed⟩)
      rintro ⟨answer, answered, _⟩
      cases answered
  | parsed accepted =>
      rw [or_iff_right accepted]
      constructor
      · rintro ⟨answer, answered, refuses⟩ malformed
        cases answered
        cases refuses malformed
      · intro wellFormed
        exact ⟨_, rfl, fun malformed => absurd malformed wellFormed⟩

/-! ## Datagrams between the guards -/

/-- A TCP datagram of 28 bytes: the header ends at byte 20, the data offset is byte 32. -/
def truncatedTcp : List UInt8 :=
  [0x45, 0, 0, 28, 0, 0, 0, 0, 64, 6, 0, 0, 10, 0, 0, 1, 10, 0, 0, 2] ++ List.replicate 8 0

/-- A datagram of 20 bytes with a header length of no words. -/
def headerless : List UInt8 :=
  [0x40, 0, 0, 20, 0, 0, 0, 0, 64, 17, 0, 0, 10, 0, 0, 1, 10, 0, 0, 2]

/-- The first raises, and from the second a packet is read whose ports are header bytes. -/
theorem malformed_not_rejected :
    Malformed truncatedTcp ∧ parseIpPacket truncatedTcp = .error .indexError ∧
      Malformed headerless ∧
      (parseIpPacket headerless).map (Option.map fun packet =>
        (packet.srcPort, packet.dstPort, packet.payload.length)) = .ok (some (16384, 20, 12)) := by
  refine ⟨.inr (.inr (.inl ⟨rfl, .inl (by decide)⟩)), rfl, .inl (by decide), rfl⟩

end NFQueue

end SmartBandwidth
