/-!
The BLAKE3 hash of a byte string, up to its first 32 bytes. The string is cut into chunks of
1024 bytes and these into blocks of 64; every chunk yields a chaining value of eight words, and
neighbouring values are merged in pairs until one is left. An odd last value moves up as it is.
-/

namespace SqlComposer.Digest

abbrev Chain := Vector UInt32 8

abbrev State := Vector UInt32 16

def initial : Chain :=
  #v[0x6A09E667, 0xBB67AE85, 0x3C6EF372, 0xA54FF53A, 0x510E527F, 0x9B05688C, 0x1F83D9AB,
    0x5BE0CD19]

def chunkStart : UInt32 := 1

def chunkEnd : UInt32 := 2

def parent : UInt32 := 4

def root : UInt32 := 8

def rotateRight (x n : UInt32) : UInt32 := x >>> n ||| x <<< (32 - n)

def mix (x y : UInt32) (a b c d : Fin 16) (v : State) : State :=
  let wa := v[a] + v[b] + x
  let wd := rotateRight (v[d] ^^^ wa) 16
  let wc := v[c] + wd
  let wb := rotateRight (v[b] ^^^ wc) 12
  let wa := wa + wb + y
  let wd := rotateRight (wd ^^^ wa) 8
  let wc := wc + wd
  let wb := rotateRight (wb ^^^ wc) 7
  (((v.set a wa).set b wb).set c wc).set d wd

/-- The columns of the state and then its diagonals. -/
def round (m : State) (v : State) : State :=
  v |> mix m[0] m[1] 0 4 8 12
    |> mix m[2] m[3] 1 5 9 13
    |> mix m[4] m[5] 2 6 10 14
    |> mix m[6] m[7] 3 7 11 15
    |> mix m[8] m[9] 0 5 10 15
    |> mix m[10] m[11] 1 6 11 12
    |> mix m[12] m[13] 2 7 8 13
    |> mix m[14] m[15] 3 4 9 14

def permuted (m : State) : State :=
  #v[m[2], m[6], m[3], m[10], m[7], m[0], m[4], m[13], m[1], m[11], m[12], m[5], m[9], m[14],
    m[15], m[8]]

def rounds : Nat → State → State → State
  | 0, _, v => v
  | n + 1, m, v => rounds n (permuted m) (round m v)

def compress (chain : Chain) (block : State) (counter : UInt64) (length flags : UInt32) : Chain :=
  let v : State :=
    #v[chain[0], chain[1], chain[2], chain[3], chain[4], chain[5], chain[6], chain[7],
      initial[0], initial[1], initial[2], initial[3], counter.toUInt32,
      (counter >>> 32).toUInt32, length, flags]
  let w := rounds 7 block v
  Vector.ofFn fun i => w[i.val] ^^^ w[i.val + 8]

/-- The word of the first four bytes, the lowest first; missing bytes are zero. -/
def word : List UInt8 → UInt32
  | a :: b :: c :: d :: _ =>
    a.toUInt32 ||| b.toUInt32 <<< 8 ||| c.toUInt32 <<< 16 ||| d.toUInt32 <<< 24
  | a :: b :: c :: _ => a.toUInt32 ||| b.toUInt32 <<< 8 ||| c.toUInt32 <<< 16
  | a :: b :: _ => a.toUInt32 ||| b.toUInt32 <<< 8
  | a :: _ => a.toUInt32
  | [] => 0

def blockWords (bytes : List UInt8) : State := Vector.ofFn fun i => word (bytes.drop (4 * i))

/-- Parts of a given length, the last one possibly shorter; one empty part if there is nothing. -/
def parts (length : Nat) (bytes : List UInt8) : List (List UInt8) :=
  if length = 0 ∨ bytes.length ≤ length then [bytes]
  else bytes.take length :: parts length (bytes.drop length)
termination_by bytes.length
decreasing_by simp; omega

/-- The chaining value after the blocks of a chunk; `last` is added to the flags of the last. -/
def chunkBlocks (counter : UInt64) (last flags : UInt32) (chain : Chain) :
    List (List UInt8) → Chain
  | [] => chain
  | [block] =>
    compress chain (blockWords block) counter (UInt32.ofNat block.length) (flags ||| last)
  | block :: rest =>
    chunkBlocks counter last 0
      (compress chain (blockWords block) counter (UInt32.ofNat block.length) flags) rest

def chunk (flags : UInt32) (counter : Nat) (bytes : List UInt8) : Chain :=
  chunkBlocks (UInt64.ofNat counter) (chunkEnd ||| flags) chunkStart initial (parts 64 bytes)

def merge (flags : UInt32) (left right : Chain) : Chain :=
  compress initial (left ++ right) 0 64 (parent ||| flags)

def mergePairs : List Chain → List Chain
  | left :: right :: rest => merge 0 left right :: mergePairs rest
  | chains => chains

theorem length_mergePairs_le (chains : List Chain) :
    (mergePairs chains).length ≤ (chains.length + 1) / 2 := by
  fun_induction mergePairs chains with
  | case1 left right rest ih => simp; omega
  | case2 chains short =>
    match chains, short with
    | [], _ => simp
    | [_], _ => simp
    | left :: right :: rest, short => exact absurd rfl (short left right rest)

def rootOf : List Chain → Chain
  | [] => initial
  | [chain] => chain
  | [left, right] => merge root left right
  | a :: b :: c :: rest => rootOf (mergePairs (a :: b :: c :: rest))
termination_by chains => chains.length
decreasing_by
  have := length_mergePairs_le (a :: b :: c :: rest)
  simp at this ⊢
  omega

def hash (bytes : List UInt8) : Chain :=
  match parts 1024 bytes with
  | [only] => chunk root 0 only
  | chunks => rootOf (chunks.mapIdx fun i bytes => chunk 0 i bytes)

def wordBytes (w : UInt32) : List UInt8 :=
  [w.toUInt8, (w >>> 8).toUInt8, (w >>> 16).toUInt8, (w >>> 24).toUInt8]

def hashBytes (bytes : List UInt8) : List UInt8 := (hash bytes).toList.flatMap wordBytes

end SqlComposer.Digest
