import SmartBandwidth.Capture.NFQueue

/-!
# Well-formed datagrams

An IPv4 datagram is assembled from its fields: a header with options, a TCP, a UDP or no known
header behind it, and a payload.  What the parser reads from the bytes is what they were
assembled from.
-/

namespace SmartBandwidth.NFQueue

/-! ## Fields -/

/-- Two fields of four bits in one byte. -/
def nibblePair (high low : Fin 16) : UInt8 := UInt8.ofNat (16 * high + low)

/-- A port, high byte first. -/
def portBytes (port : UInt16) : List UInt8 :=
  [UInt8.ofNat (port.toNat / 256), UInt8.ofNat port.toNat]

/-- An address, high byte first. -/
def addressBytes (address : UInt32) : List UInt8 :=
  [UInt8.ofNat (address.toNat / 2 ^ 24), UInt8.ofNat (address.toNat / 2 ^ 16),
    UInt8.ofNat (address.toNat / 2 ^ 8), UInt8.ofNat address.toNat]

/-- An address in dotted form. -/
def dotted (address : UInt32) : String :=
  String.intercalate "."
    [toString (address.toNat / 2 ^ 24), toString (address.toNat / 2 ^ 16 % 256),
      toString (address.toNat / 2 ^ 8 % 256), toString (address.toNat % 256)]

/-- The options of a header, which make it up to ten words longer than its five fixed words. -/
structure HeaderOptions where
  words : Fin 11
  bytes : Vector UInt8 (4 * words)

/-- The header length field, in words. -/
def HeaderOptions.headerWords (options : HeaderOptions) : Fin 16 :=
  ⟨5 + options.words, by omega⟩

theorem HeaderOptions.five_le_headerWords (options : HeaderOptions) :
    5 ≤ (options.headerWords : Nat) :=
  Nat.le_add_right 5 _

/-- The header behind the IPv4 header. -/
inductive Segment where
  | tcp (srcPort dstPort : UInt16) (numbers : Vector UInt8 8) (reserved : Fin 16)
      (control : Vector UInt8 7) (options : HeaderOptions)
  | udp (srcPort dstPort : UInt16) (lengthAndChecksum : Vector UInt8 4)
  | other (number : UInt8) (notTcp : number ≠ 6) (notUdp : number ≠ 17)

namespace Segment

/-- The protocol number. -/
def number : Segment → UInt8
  | .tcp .. => 6
  | .udp .. => 17
  | .other number _ _ => number

/-- The bytes of the header. -/
def bytes : Segment → List UInt8
  | .tcp srcPort dstPort numbers reserved control options =>
      portBytes srcPort ++ portBytes dstPort ++ numbers.toList ++
        nibblePair options.headerWords reserved :: control.toList ++ options.bytes.toList
  | .udp srcPort dstPort lengthAndChecksum =>
      portBytes srcPort ++ portBytes dstPort ++ lengthAndChecksum.toList
  | .other _ _ _ => []

/-- The source port; there is none without a known header. -/
def srcPort : Segment → Nat
  | .tcp srcPort .. => srcPort.toNat
  | .udp srcPort .. => srcPort.toNat
  | .other .. => 0

/-- The destination port; there is none without a known header. -/
def dstPort : Segment → Nat
  | .tcp _ dstPort .. => dstPort.toNat
  | .udp _ dstPort _ => dstPort.toNat
  | .other .. => 0

theorem tcp_length (srcPort dstPort : UInt16) (numbers : Vector UInt8 8) (reserved : Fin 16)
    (control : Vector UInt8 7) (options : HeaderOptions) :
    (tcp srcPort dstPort numbers reserved control options).bytes.length =
      (options.headerWords : Nat) * 4 := by
  simp only [bytes, portBytes, HeaderOptions.headerWords, List.length_append, List.length_cons,
    List.length_nil, Vector.length_toList]
  omega

theorem udp_length (srcPort dstPort : UInt16) (lengthAndChecksum : Vector UInt8 4) :
    (udp srcPort dstPort lengthAndChecksum).bytes.length = 8 := by
  simp only [bytes, portBytes, List.length_append, List.length_cons, List.length_nil,
    Vector.length_toList]

end Segment

/-- An IPv4 datagram.  `service` stands for the fields from the type of service to the time to
live. -/
structure Datagram where
  service : Vector UInt8 8
  checksum : Vector UInt8 2
  source : UInt32
  destination : UInt32
  options : HeaderOptions
  segment : Segment
  payload : List UInt8

namespace Datagram

/-- The IPv4 header. -/
def header (datagram : Datagram) : List UInt8 :=
  [nibblePair 4 datagram.options.headerWords] ++ datagram.service.toList ++
    [datagram.segment.number] ++ datagram.checksum.toList ++ addressBytes datagram.source ++
    addressBytes datagram.destination ++ datagram.options.bytes.toList

/-- The bytes of a datagram. -/
def assemble (datagram : Datagram) : List UInt8 :=
  datagram.header ++ datagram.segment.bytes ++ datagram.payload

/-- The packet that stands for a datagram. -/
def packet (datagram : Datagram) : Packet where
  srcIp := dotted datagram.source
  dstIp := dotted datagram.destination
  srcPort := datagram.segment.srcPort
  dstPort := datagram.segment.dstPort
  protocol := (protoMap datagram.segment.number).getD (toString datagram.segment.number.toNat)
  payload := datagram.payload
  sizeBytes := datagram.assemble.length

end Datagram

/-! ## Reading a field back -/

theorem highNibble_nibblePair (high low : Fin 16) : highNibble (nibblePair high low) = high := by
  revert high low
  decide

theorem lowNibble_nibblePair (high low : Fin 16) : lowNibble (nibblePair high low) = low := by
  revert high low
  decide

/-- Two big-endian bytes are read as the port they were written from. -/
theorem portBytes_value (port : UInt16) :
    256 * (UInt8.ofNat (port.toNat / 256)).toNat + (UInt8.ofNat port.toNat).toNat =
      port.toNat := by
  have bound := port.toNat_lt
  rw [UInt8.toNat_ofNat', UInt8.toNat_ofNat']
  omega

theorem ipv4Text_addressBytes (address : UInt32) :
    ipv4Text (addressBytes address) = .ok (dotted address) := by
  have bound := address.toNat_lt
  have first : address.toNat / 16777216 % 256 = address.toNat / 16777216 := by omega
  have four : (addressBytes address).length = 4 := rfl
  rw [ipv4Text, if_pos four, dotted]
  simp only [addressBytes, List.map_cons, List.map_nil, UInt8.toNat_ofNat', Nat.reducePow, first]

theorem byteAt_of_drop {raw rest : List UInt8} {index : Nat} {byte : UInt8}
    (found : raw.drop index = byte :: rest) : byteAt raw index = .ok byte := by
  rw [byteAt, ← List.head?_drop, found]
  rfl

theorem unpackPorts_of_drop {raw rest : List UInt8} {offset : Nat} {srcPort dstPort : UInt16}
    (found : raw.drop offset = portBytes srcPort ++ portBytes dstPort ++ rest) :
    unpackPorts raw offset = .ok (srcPort.toNat, dstPort.toNat) := by
  rw [unpackPorts, found]
  simp only [portBytes, List.cons_append, List.nil_append, portBytes_value]

/-! ## Reading a datagram back -/

namespace Datagram

variable (datagram : Datagram)

theorem header_length :
    datagram.header.length = (datagram.options.headerWords : Nat) * 4 := by
  simp only [header, addressBytes, HeaderOptions.headerWords, List.length_append,
    List.length_cons, List.length_nil, Vector.length_toList]
  omega

theorem assemble_length : 20 ≤ datagram.assemble.length := by
  have header := datagram.header_length
  have fixed := datagram.options.five_le_headerWords
  simp only [assemble, List.length_append]
  omega

/-- The bytes from the protocol number on. -/
theorem drop_nine :
    datagram.assemble.drop 9 = datagram.segment.number :: (datagram.checksum.toList ++
      (addressBytes datagram.source ++ (addressBytes datagram.destination ++
        (datagram.options.bytes.toList ++ (datagram.segment.bytes ++ datagram.payload))))) := by
  have front : ([nibblePair 4 datagram.options.headerWords] ++ datagram.service.toList).length =
      9 := by
    rw [List.length_append, Vector.length_toList]
    rfl
  simp only [assemble, header, List.append_assoc]
  rw [← List.append_assoc, List.drop_left' front]
  rfl

/-- The bytes from the source address on. -/
theorem drop_twelve :
    datagram.assemble.drop 12 = addressBytes datagram.source ++
      (addressBytes datagram.destination ++ (datagram.options.bytes.toList ++
        (datagram.segment.bytes ++ datagram.payload))) := by
  rw [show 12 = 9 + 3 from rfl, ← List.drop_drop, drop_nine, List.drop_succ_cons,
    List.drop_left' (Vector.length_toList)]

theorem drop_sixteen :
    datagram.assemble.drop 16 = addressBytes datagram.destination ++
      (datagram.options.bytes.toList ++ (datagram.segment.bytes ++ datagram.payload)) := by
  rw [show 16 = 12 + 4 from rfl, ← List.drop_drop, drop_twelve]
  rfl

/-- The bytes behind the IPv4 header. -/
theorem drop_header :
    datagram.assemble.drop ((datagram.options.headerWords : Nat) * 4) =
      datagram.segment.bytes ++ datagram.payload := by
  rw [assemble, List.append_assoc, List.drop_left' datagram.header_length]

/-- The bytes behind the IPv4 header and the one that follows it. -/
theorem drop_segment :
    datagram.assemble.drop
      ((datagram.options.headerWords : Nat) * 4 + datagram.segment.bytes.length) =
        datagram.payload := by
  rw [← List.drop_drop, drop_header, List.drop_left]

/-- The header behind the IPv4 header is read to its end. -/
theorem parseTransport_assemble :
    parseTransport datagram.assemble ((datagram.options.headerWords : Nat) * 4)
        datagram.segment.number =
      .ok (some ⟨datagram.segment.srcPort, datagram.segment.dstPort,
        (datagram.options.headerWords : Nat) * 4 + datagram.segment.bytes.length⟩) := by
  have behind := datagram.drop_header
  have length : datagram.assemble.length = (datagram.options.headerWords : Nat) * 4 +
      datagram.segment.bytes.length + datagram.payload.length := by
    rw [assemble, List.length_append, List.length_append, header_length]
  cases segment : datagram.segment with
  | tcp srcPort dstPort numbers reserved control options =>
      rw [segment] at behind length
      simp only [Segment.bytes, List.append_assoc] at behind
      have offset : byteAt datagram.assemble ((datagram.options.headerWords : Nat) * 4 + 12) =
          .ok (nibblePair options.headerWords reserved) := by
        have front : (portBytes srcPort ++ portBytes dstPort ++ numbers.toList).length = 12 := by
          rw [List.length_append, Vector.length_toList]
          rfl
        have found := congrArg (List.drop 12) behind
        rw [List.drop_drop, ← List.append_assoc, ← List.append_assoc, List.drop_left' front]
          at found
        exact byteAt_of_drop found
      have words := Segment.tcp_length srcPort dstPort numbers reserved control options
      have long : ¬datagram.assemble.length < (datagram.options.headerWords : Nat) * 4 + 8 := by
        have fixed := options.five_le_headerWords
        omega
      rw [parseTransport, Segment.number, if_pos (.inl rfl), if_neg long,
        unpackPorts_of_drop behind]
      simp only [bind, Except.bind, ↓reduceIte, offset, highNibble_nibblePair, words]
      rfl
  | udp srcPort dstPort lengthAndChecksum =>
      rw [segment] at behind length
      simp only [Segment.bytes, List.append_assoc] at behind
      rw [Segment.udp_length] at length
      have long : ¬datagram.assemble.length < (datagram.options.headerWords : Nat) * 4 + 8 := by
        omega
      rw [parseTransport, Segment.number, if_pos (.inr rfl), if_neg long,
        unpackPorts_of_drop behind, Segment.udp_length]
      rfl
  | other number notTcp notUdp =>
      rw [parseTransport, Segment.number, if_neg (not_or.mpr ⟨notTcp, notUdp⟩)]
      rfl

/-- Parsing a datagram gives its packet. -/
theorem parseIpPacket_assemble : parseIpPacket datagram.assemble = .ok (some datagram.packet) := by
  have first : byteAt datagram.assemble 0 =
      .ok (nibblePair 4 datagram.options.headerWords) := rfl
  have number := byteAt_of_drop datagram.drop_nine
  have source : (datagram.assemble.drop 12).take 4 = addressBytes datagram.source := by
    rw [drop_twelve]
    exact List.take_left' rfl
  have destination : (datagram.assemble.drop 16).take 4 = addressBytes datagram.destination := by
    rw [drop_sixteen]
    exact List.take_left' rfl
  have version : ¬((4 : Fin 16) : Nat) ≠ 4 := not_not.mpr rfl
  have sized : ¬(datagram.assemble.length : Int) = 0 := by
    have long := datagram.assemble_length
    omega
  rw [parseIpPacket, if_neg (not_lt.mpr datagram.assemble_length), first]
  simp only [bind, Except.bind, highNibble_nibblePair, if_neg version, lowNibble_nibblePair,
    number, source, destination, ipv4Text_addressBytes, parseTransport_assemble, Option.map_some,
    packetOf, Packet.postInit, sized, ↓reduceIte, drop_segment]
  rfl

end Datagram

end SmartBandwidth.NFQueue
