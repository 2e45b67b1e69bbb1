import MensajeroX.Lib.Bloques
import MensajeroX.Utilidades.Md5
import MensajeroX.WebServer.Mongoose

/-!
# WebSockets

What `mongoose` answers to a client that asks for a WebSocket, and how it reads the frames that follow. The key of the
handshake goes through SHA-1 and base64. The lengths of a frame are `size_t`, so the length of a frame may wrap around: then
its data would reach far beyond the buffer, and what the server does with them is not defined.

* `leerTrama` : what stands at the beginning of the buffer;
* `leerTrama_entera` : a whole frame lies in the buffer.
-/

namespace MensajeroX.Mongoose
open Bytes
open MD5 (memcpy)

/-! ## SHA-1 -/

namespace SHA1

def rol (value bits : UInt32) : UInt32 := (value <<< bits) ||| (value >>> (32 - bits))

/-- `state`, or the five variables of `SHA1Transform` in the order in which the next round takes them. -/
structure State where
  v : UInt32
  w : UInt32
  x : UInt32
  y : UInt32
  z : UInt32
deriving DecidableEq, Repr

/-- The words of a block, as `blk0` leaves them: the bytes of each are swapped. -/
def blk0 : Cadena → List UInt32
  | b₀ :: b₁ :: b₂ :: b₃ :: rest =>
    ((b₀.toUInt32 <<< 24) ||| (b₁.toUInt32 <<< 16) ||| (b₂.toUInt32 <<< 8) ||| b₃.toUInt32) :: blk0 rest
  | _ => []

def blk (l : List UInt32) (i : Nat) : UInt32 :=
  rol (l.getD ((i + 13) % 16) 0 ^^^ l.getD ((i + 8) % 16) 0 ^^^ l.getD ((i + 2) % 16) 0 ^^^ l.getD (i % 16) 0) 1

/-- The common body of `R0` to `R4`. The next round has the new `z` for its `v`, and so on. -/
def R (f : UInt32 → UInt32 → UInt32 → UInt32) (k : UInt32) (s : State) (word : UInt32) : State where
  v := s.z + (f s.w s.x s.y + word + k + rol s.v 5)
  w := s.v
  x := rol s.w 30
  y := s.x
  z := s.y

def R0 := R (fun w x y => (w &&& (x ^^^ y)) ^^^ y) 0x5A827999

def R2 := R (fun w x y => w ^^^ x ^^^ y) 0x6ED9EBA1

def R3 := R (fun w x y => ((w ||| x) &&& y) ||| (w &&& x)) 0x8F1BBCDC

def R4 := R (fun w x y => w ^^^ x ^^^ y) 0xCA62C1D6

/-- The round `i`, with its word already in the block; `R1` is `R0` on the words of `blk`. -/
def ronda (i : Nat) : State → UInt32 → State :=
  if i < 20 then R0 else if i < 40 then R2 else if i < 60 then R3 else R4

def transform (state : State) (buffer : Cadena) : State :=
  let r := (List.range 80).foldl
    (fun (r : State × List UInt32) i =>
      let word := if i < 16 then r.2.getD i 0 else blk r.2 i
      (ronda i r.1 word, r.2.set (i % 16) word))
    (state, blk0 buffer)
  ⟨state.v + r.1.v, state.w + r.1.w, state.x + r.1.x, state.y + r.1.y, state.z + r.1.z⟩

/-- `SHA1_CTX`. -/
structure Ctx where
  state : State
  count₀ : UInt32
  count₁ : UInt32
  buffer : Cadena
deriving DecidableEq, Repr

def init : Ctx where
  state := ⟨0x67452301, 0xEFCDAB89, 0x98BADCFE, 0x10325476, 0xC3D2E1F0⟩
  count₀ := 0
  count₁ := 0
  buffer := List.replicate 64 0

def update (context : Ctx) (data : Cadena) : Ctx :=
  let count₀ := context.count₀ + (8 * data.length).toUInt32
  let count₁ := if count₀ < context.count₀ then context.count₁ + 1 else context.count₁
  let count₁ := count₁ + (data.length / 2 ^ 29).toUInt32
  let j := context.count₀.toNat / 8 % 64
  if 63 < j + data.length then
    let buffer := memcpy context.buffer j (data.take (64 - j))
    let r := Bloques.absorber 64 transform (transform context.state buffer) (data.drop (64 - j))
    ⟨r.1, count₀, count₁, memcpy buffer 0 r.2⟩
  else ⟨context.state, count₀, count₁, memcpy context.buffer j data⟩

def wordBytes (w : UInt32) : Cadena := (MD5.wordBytes w).reverse

/-- The zeros that `SHA1Final` adds one by one, at most a block of them. -/
def rellenar : Nat → Ctx → Ctx
  | 0, context => context
  | n + 1, context => if context.count₀ &&& 504 ≠ 448 then rellenar n (update context [0]) else context

def final (context : Ctx) : Cadena :=
  let finalcount := wordBytes context.count₁ ++ wordBytes context.count₀
  let context := update (rellenar 64 (update context [0x80])) finalcount
  [context.state.v, context.state.w, context.state.x, context.state.y, context.state.z].flatMap wordBytes

end SHA1

/-! ## The handshake -/

def b64 (i : UInt8) : UInt8 :=
  (bytes "ABCDEFGHIJKLMNOPQRSTUVWXYZabcdefghijklmnopqrstuvwxyz0123456789+/").getD i.toNat 0

def base64_encode : Cadena → Cadena
  | [] => []
  | [a] => [b64 (a >>> 2), b64 ((a &&& 3) <<< 4), 0x3d, 0x3d]
  | [a, b] => [b64 (a >>> 2), b64 (((a &&& 3) <<< 4) ||| (b >>> 4)), b64 ((b &&& 15) <<< 2), 0x3d]
  | a :: b :: c :: src =>
    [b64 (a >>> 2), b64 (((a &&& 3) <<< 4) ||| (b >>> 4)), b64 (((b &&& 15) <<< 2) ||| (c >>> 6)), b64 (c &&& 63)] ++
      base64_encode src

/-- `mg_snprintf` cuts what does not fit. -/
def mg_snprintf (buflen : Nat) (texto : Cadena) : Cadena := texto.take (buflen - 1)

/-- The bytes of `send_websocket_handshake`. -/
def send_websocket_handshake (key : Cadena) : Cadena :=
  let buf := mg_snprintf 500 (key ++ bytes "258EAFA5-E914-47DA-95CA-C5AB0DC85B11")
  let b64_sha := base64_encode (SHA1.final (SHA1.update SHA1.init buf))
  mg_snprintf 500 (bytes "HTTP/1.1 101 Switching Protocols\r\nUpgrade: websocket\r\nConnection: Upgrade\r\n" ++
    bytes "Sec-WebSocket-Accept: " ++ b64_sha ++ bytes "\r\n\r\n")

def websocketKey (http_headers : List (Cadena × Cadena)) : Option Cadena :=
  if (mg_get_header http_headers (bytes "Sec-WebSocket-Version")).isSome then
    mg_get_header http_headers (bytes "Sec-WebSocket-Key")
  else none

/-! ## Frames -/

/-- The lengths of a frame: `mask_len`, `header_len` and `data_len`. -/
structure Largos where
  mask_len : Nat := 0
  header_len : Nat := 0
  data_len : Nat := 0
deriving DecidableEq, Repr

def bigEndian (bs : Cadena) : Nat := bs.foldl (fun n b => 256 * n + b.toNat) 0

def largosDe (buf : Cadena) : Largos :=
  if 2 ≤ buf.length then
    let len := (buf.getD 1 0 &&& 127).toNat
    let mask_len := if buf.getD 1 0 &&& 128 ≠ 0 then 4 else 0
    if len < 126 ∧ mask_len ≤ buf.length then ⟨mask_len, 2 + mask_len, len⟩
    else if len = 126 ∧ 4 + mask_len ≤ buf.length then ⟨mask_len, 4 + mask_len, bigEndian ((buf.drop 2).take 2)⟩
    else if 10 + mask_len ≤ buf.length then ⟨mask_len, 10 + mask_len, bigEndian ((buf.drop 2).take 8)⟩
    else { mask_len }
  else {}

inductive Trama where
  | incompleta
  /-- the data of a frame, without their mask, and the length of the frame -/
  | entera (datos : Cadena) (frame_len : Nat)
  /-- the length has wrapped around -/
  | desborde
deriving DecidableEq, Repr

/-- The loop over the data; the mask stands before them. -/
def desenmascarar (mask datos : Cadena) : Cadena := datos.mapIdx fun i c => c ^^^ mask.getD (i % 4) 0

def leerTrama (buf : Cadena) : Trama :=
  let l := largosDe buf
  let frame_len := (l.header_len + l.data_len) % 2 ^ 64
  if 0 < frame_len ∧ frame_len ≤ buf.length then
    if l.header_len + l.data_len < 2 ^ 64 then
      let datos := (buf.drop l.header_len).take l.data_len
      .entera (if 0 < l.mask_len then desenmascarar ((buf.drop (l.header_len - l.mask_len)).take 4) datos else datos)
        frame_len
    else .desborde
  else .incompleta

theorem leerTrama_entera {buf datos : Cadena} {frame_len : Nat} (h : leerTrama buf = .entera datos frame_len) :
    0 < frame_len ∧ frame_len ≤ buf.length := by
  rw [leerTrama] at h
  dsimp only at h
  split at h
  · rename_i hbuffered
    split at h
    · cases h
      exact hbuffered
    · cases h
  · cases h

end MensajeroX.Mongoose
