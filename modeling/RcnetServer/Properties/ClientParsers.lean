/-
  RcnetServer.Properties.ClientParsers

  The four client parsers accept exactly their grammar.

  A client packet arrives from an untrusted peer as any bytes at all.  Its
  deserializer accepts them if and only if they are the encoding of a packet of
  its type, with nothing behind it; the packet it returns is the only one with
  this encoding; and it touches no position outside the bytes.
-/

import RcnetServer.Network.Parsers

namespace RcnetServer

-- ============================================================================
-- Exact parsers
-- ============================================================================

/-- On the bytes `b`, `parse` accepts the encodings and nothing else, and stays
    within `b`.  `program` is the tree of the reader calls `parse` makes. -/
structure ParsesExactly {α : Type} (parse : List UInt8 → Option α)
    (encode : α → Option (List UInt8)) (program : ReadProgram α) (b : List UInt8) : Prop where
  accepts_iff : (parse b).isSome ↔ ∃ packet, encode packet = some b
  encodes : ∀ packet, parse b = some packet → encode packet = some b
  unique : ∀ packet other, parse b = some packet → encode other = some b → other = packet
  runs : parse b = program.run (ByteReader.ofBytes b)
  inBounds : ∀ i ∈ program.touched (ByteReader.ofBytes b), i < b.length

/-- A deserializer that runs a bounded program is exact for the encoding the program
    accepts. -/
theorem ParsesExactly.of_program {α : Type} {parse : List UInt8 → Option α}
    {encode : α → Option (List UInt8)} {program : ReadProgram α} {n : Nat} {b : List UInt8}
    (hruns : parse b = program.run (ByteReader.ofBytes b)) (hwithin : program.Within n)
    (hn : n < 2 ^ 64) (hsize : b.length < 2 ^ 64)
    (haccepts : ∀ packet, program.Accepts b packet ↔ encode packet = some b) :
    ParsesExactly parse encode program b := by
  have hparse : ∀ packet, parse b = some packet ↔ encode packet = some b := by
    intro packet
    rw [hruns, ReadProgram.run_ofBytes_eq_some_iff hwithin hn hsize]
    exact haccepts packet
  refine ⟨?_, fun packet => (hparse packet).mp, ?_, hruns, ?_⟩
  · rw [Option.isSome_iff_exists]
    exact exists_congr hparse
  · intro packet other hpacket hother
    rw [(hparse other).mpr hother] at hpacket
    exact Option.some.inj hpacket
  · intro i hi
    exact ReadProgram.touched_ofBytes_lt hwithin hn hsize hi

-- ============================================================================
-- The client packets
-- ============================================================================

/-- Every byte string a `size_t` can measure is parsed exactly by each of the four
    client deserializers. -/
theorem client_parsers_exact (b : List UInt8) (hsize : b.length < 2 ^ 64) :
    ParsesExactly deserializeClientSecureSessionHelloPacketReliable
      encodeClientSecureSessionHelloPacketReliable clientSecureSessionHelloProgram b ∧
    ParsesExactly deserializeClientAuthPacketReliable
      encodeClientAuthPacketReliable clientAuthProgram b ∧
    ParsesExactly deserializeClientReadyForMatchPacketReliable
      encodeClientReadyForMatchPacketReliable clientReadyForMatchProgram b ∧
    ParsesExactly deserializeClientInputPacketUnreliable
      encodeClientInputPacketUnreliable clientInputProgram b := by
  refine ⟨?_, ?_, ?_, ?_⟩
  · exact ParsesExactly.of_program (deserializeClientSecureSessionHelloPacketReliable_eq_run b)
      clientSecureSessionHelloProgram_within (by decide) hsize
      fun _ => clientSecureSessionHelloProgram_accepts_iff
  · exact ParsesExactly.of_program (deserializeClientAuthPacketReliable_eq_run b)
      clientAuthProgram_within (by decide) hsize fun _ => clientAuthProgram_accepts_iff
  · exact ParsesExactly.of_program (deserializeClientReadyForMatchPacketReliable_eq_run b)
      clientReadyForMatchProgram_within (by decide) hsize
      fun _ => clientReadyForMatchProgram_accepts_iff
  · exact ParsesExactly.of_program (deserializeClientInputPacketUnreliable_eq_run b)
      clientInputProgram_within (by decide) hsize fun _ => clientInputProgram_accepts_iff

/-- The bytes of a token of two characters, and the same bytes cut short or with one
    more behind them. -/
theorem client_parsers_exact_token :
    deserializeClientAuthPacketReliable [1, 0, 2, 104, 105] = some { authToken := [104, 105] } ∧
    deserializeClientAuthPacketReliable [1, 0, 2, 104] = none ∧
    deserializeClientAuthPacketReliable [1, 0, 2, 104, 105, 0] = none ∧
    (∀ other, encodeClientAuthPacketReliable other = some [1, 0, 2, 104, 105] →
      other = { authToken := [104, 105] }) := by
  have hparse : deserializeClientAuthPacketReliable [1, 0, 2, 104, 105] =
      some { authToken := [104, 105] } := by decide
  have hexact := (client_parsers_exact [1, 0, 2, 104, 105] (by decide)).2.1
  exact ⟨hparse, by decide, by decide, fun other => hexact.unique _ other hparse⟩

end RcnetServer
