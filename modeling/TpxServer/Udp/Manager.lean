import TpxServer.Udp.Decoder

/-!
# The UDP connection manager

`parseBytes` handles a received datagram: it warns about and drops a datagram that is not a
sequence of 64-bit words, appends the hits to the save file as one `TPX3` chunk, and hands the
datagram to `publishRawData`. The throughput log of `publishRawData` (wall-clock time) is left out.
-/

namespace TpxServer.Udp

/-- `mFile` is `some bytes` while a file is open, `bytes` being what was written to it. A write
while no file is open is lost. -/
structure UdpConnectionManager extends RolloverState where
  mFile : Option (List Byte) := none
  published : List (List Word) := []
  signals : List Signal := []

namespace UdpConnectionManager

variable (m : UdpConnectionManager)

/-- `mFile << bytes`. -/
def write (bytes : List Byte) : UdpConnectionManager := { m with mFile := m.mFile.map (· ++ bytes) }

def signal (s : Signal) : UdpConnectionManager := { m with signals := m.signals ++ [s] }

/-- `opened` tells whether the operating system opens the file. -/
def setSaveFile (path : String) (opened : Bool) : UdpConnectionManager × Bool :=
  let m := { m with mFile := none }
  if path.isEmpty then (m, true)
  else if opened then
    (signal { m with mFile := some [] } (.log ("Saving raw packets to " ++ path)), true)
  else (m, false)

end UdpConnectionManager

/-! ## Chunks of the save file -/

def typeByte (bytes : List Byte) (ix : ℕ) : Byte := (bytes.getD (8 * ix + 7) 0 &&& 0xF0) >>> 4

/-- The first pass over the datagram. -/
def numClicks (bytes : List Byte) (num : ℕ) : ℕ :=
  (List.range num).countP fun ix => typeByte bytes ix == 0xb

def chunkHeader (chunk_size : ℕ) : List Byte :=
  let size_lsb := BitVec.ofNat 8 (chunk_size &&& 0xFF)
  let size_msb := BitVec.ofNat 8 ((chunk_size >>> 8) &&& 0xFF)
  -- "TPX3", two zero bytes
  [0x54, 0x50, 0x58, 0x33, 0, 0, size_lsb, size_msb]

/-- The bytes written by the second pass. -/
def clickBytes (bytes : List Byte) (num : ℕ) : List Byte :=
  (List.range num).flatMap fun ix =>
    if typeByte bytes ix == 0xb then (List.range 8).map fun jx => bytes.getD (8 * ix + jx) 0 else []

namespace UdpConnectionManager

/-- `publishRawData` as a member function. -/
def publish (m : UdpConnectionManager) (buffer : List Byte) (size : ℕ) : UdpConnectionManager :=
  let r := publishRawData m.toRolloverState buffer size
  { m with toRolloverState := r.1, published := m.published ++ [r.2] }

def parseBytes (m : UdpConnectionManager) (buffer : List Byte) (size : ℕ) :
    UdpConnectionManager :=
  if size = 0 then m
  else if size % 8 ≠ 0 then
    m.signal (.warn ("Received a UDP chunk with a byte size of " ++ toString size ++
      "; expected a multiple of 8"))
  else
    let num_clicks := numClicks buffer (size / 8)
    let chunk_size := num_clicks * 8
    let m :=
      if num_clicks ≠ 0 then
        (m.write (chunkHeader chunk_size)).write (clickBytes buffer (size / 8))
      else m
    m.publish buffer size

/-- The completion handler of `async_receive_from`. -/
def handleMessage (m : UdpConnectionManager) (d : Datagram) : UdpConnectionManager :=
  m.parseBytes d.buffer d.size

def handleAll (m : UdpConnectionManager) (ds : List Datagram) : UdpConnectionManager :=
  ds.foldl handleMessage m

end UdpConnectionManager

end TpxServer.Udp
