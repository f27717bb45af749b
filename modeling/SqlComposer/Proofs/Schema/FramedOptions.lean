import Mathlib.Algebra.Group.Nat.Defs
import Mathlib.Data.Set.Basic
import SqlComposer.Proofs.Statement.Identifier
import SqlComposer.Schema.NativeType

/-!
Options framed for the digest that names their type. A frame begins with the eight bytes of its
length, so none is the beginning of another one, whatever bytes the options hold. So the frames in
a row determine the options, and two enumerations have one type exactly if their options are the
same or the digests of their frames begin alike (`Dialect.sharesType_iff`).
-/

namespace SqlComposer

/-! ## Prefix codes -/

/-- No word is empty, and none is the beginning of another one. -/
structure PrefixCode {α β : Type} (code : α → List β) (s : Set α) : Prop where
  ne_nil : ∀ a ∈ s, code a ≠ []
  eq_of_prefix : ∀ a ∈ s, ∀ b ∈ s, code a <+: code b → a = b

namespace PrefixCode

variable {α β : Type} {code : α → List β} {s : Set α} (free : PrefixCode code s)
include free

/-- Two words at the front of one text are the same. -/
theorem eq_of_prefix_common {a b : α} (first : a ∈ s) (second : b ∈ s) {text : List β}
    (left : code a <+: text) (right : code b <+: text) : a = b := by
  rcases List.prefix_or_prefix_of_prefix left right with before | before
  · exact free.eq_of_prefix a first b second before
  · exact (free.eq_of_prefix b second a first before).symm

theorem flatMap_prefix_iff {l m : List α} (left : ∀ a ∈ l, a ∈ s) (right : ∀ b ∈ m, b ∈ s) :
    l.flatMap code <+: m.flatMap code ↔ l <+: m := by
  refine ⟨fun front => ?_, fun front => front.flatMap code⟩
  induction l generalizing m with
  | nil => exact List.nil_prefix
  | cons a l ih =>
    obtain ⟨first, later⟩ := List.forall_mem_cons.mp left
    have begins : code a <+: m.flatMap code :=
      (List.prefix_append (code a) (l.flatMap code)).trans front
    cases m with
    | nil => exact absurd (List.prefix_nil.mp begins) (free.ne_nil a first)
    | cons b m =>
      obtain ⟨second, others⟩ := List.forall_mem_cons.mp right
      -- Both first words stand at the front of the longer text.
      obtain rfl := free.eq_of_prefix_common first second begins (List.prefix_append _ _)
      have rest : l.flatMap code <+: m.flatMap code :=
        (List.prefix_append_right_inj (code a)).mp front
      exact (List.prefix_cons_inj a).mpr (ih later others rest)

theorem flatMap_inj {l m : List α} (left : ∀ a ∈ l, a ∈ s) (right : ∀ b ∈ m, b ∈ s) :
    l.flatMap code = m.flatMap code ↔ l = m := by
  refine ⟨fun same => ?_, congrArg (List.flatMap code)⟩
  have front := (free.flatMap_prefix_iff left right).mp (same ▸ List.prefix_rfl)
  have back := (free.flatMap_prefix_iff right left).mp (same ▸ List.prefix_rfl)
  exact front.eq_of_length_le back.length_le

end PrefixCode

/-! ## Hexadecimal digits -/

namespace Value

theorem hexByte_eq (byte : UInt8) :
    hexByte byte = [Nat.digitChar (byte.toNat / 16), Nat.digitChar (byte.toNat % 16)] := by
  have pairs : ∀ n < 256, Text.hexPair (Text.hexDigits n) =
      [Nat.digitChar (n / 16), Nat.digitChar (n % 16)] := by
    decide +kernel
  exact pairs byte.toNat byte.toNat_lt

theorem prefixCode_hexByte : PrefixCode hexByte Set.univ where
  ne_nil byte _ := by simp [hexByte_eq]
  eq_of_prefix := by
    intro a _ b _ front
    have digits : ∀ m < 16, ∀ n < 16, Nat.digitChar m = Nat.digitChar n → m = n := by decide
    have same := front.eq_of_length (by simp [hexByte_eq])
    simp only [hexByte_eq, List.cons.injEq, and_true] at same
    have boundA := a.toNat_lt
    have boundB := b.toNat_lt
    have high := digits _ (by omega) _ (by omega) same.1
    have low := digits _ (by omega) _ (by omega) same.2
    exact UInt8.toNat_inj.mp (by omega)

theorem hex_inj {bytes others : List UInt8} : hex bytes = hex others ↔ bytes = others := by
  have all : ∀ list : List UInt8, ∀ byte ∈ list, byte ∈ Set.univ := fun _ _ _ => trivial
  rw [hex, hex, String.ofList_inj]
  exact prefixCode_hexByte.flatMap_inj (all bytes) (all others)

end Value

/-! ## Frames -/

def lengthOf : List UInt8 → Nat
  | [] => 0
  | byte :: bytes => byte.toNat + 256 * lengthOf bytes

theorem lengthOf_bytes (count n : Nat) :
    lengthOf ((List.range count).map fun i => UInt8.ofNat (n >>> (8 * i))) = n % 256 ^ count := by
  induction count generalizing n with
  | zero => simp [lengthOf, Nat.mod_one]
  | succ count ih =>
    -- The bytes behind the first are those of the number without its lowest byte.
    have later : ∀ i, n >>> (8 * (i + 1)) = (n / 256) >>> (8 * i) := by
      intro i
      rw [Nat.mul_add, Nat.add_comm, Nat.shiftRight_add, Nat.shiftRight_eq_div_pow n (8 * 1)]
    simp only [List.range_succ_eq_map, List.map_cons, List.map_map, Function.comp_def, later,
      lengthOf, ih]
    rw [Nat.pow_succ', Nat.mod_mul]
    simp

theorem lengthOf_lengthBytes {n : Nat} (short : n < 2 ^ 64) : lengthOf (lengthBytes n) = n := by
  rw [lengthBytes, lengthOf_bytes]
  exact Nat.mod_eq_of_lt short

theorem length_lengthBytes (n : Nat) : (lengthBytes n).length = 8 := by
  simp [lengthBytes]

/-- The options whose length eight bytes can hold. -/
def framable : Set String := {option | option.utf8ByteSize < 2 ^ 64}

theorem prefixCode_framedOption : PrefixCode framedOption framable where
  ne_nil option _ := by
    intro nothing
    have eight := length_lengthBytes option.utf8ByteSize
    simp [(List.append_eq_nil_iff.mp nothing).1] at eight
  eq_of_prefix := by
    intro option short other fits front
    obtain ⟨rest, whole⟩ := front
    -- Both lengths take eight bytes, so they end at the same place, and then so do the texts.
    rw [framedOption, framedOption, List.append_assoc] at whole
    obtain ⟨lengths, texts⟩ := List.append_inj whole (by simp only [length_lengthBytes])
    have size : option.utf8ByteSize = other.utf8ByteSize := by
      have read := congrArg lengthOf lengths
      rwa [lengthOf_lengthBytes short, lengthOf_lengthBytes fits] at read
    have bytes := List.IsPrefix.eq_of_length ⟨rest, texts⟩ size
    exact String.toByteArray_inj.mp (ByteArray.ext (Array.toList_inj.mp bytes))

theorem framedOptions_inj {options others : List String}
    (short : ∀ option ∈ options ++ others, option ∈ framable) :
    framedOptions options = framedOptions others ↔ options = others :=
  prefixCode_framedOption.flatMap_inj
    (fun option member => short option (List.mem_append_left others member))
    (fun option member => short option (List.mem_append_right options member))

/-! ## Names -/

/-- Different byte strings whose digests begin with the same eight bytes. -/
def Digest.Collide (bytes others : List UInt8) : Prop :=
  bytes ≠ others ∧ (hashBytes bytes).take 8 = (hashBytes others).take 8

theorem enumTypeName_eq_iff (options others : List String) :
    enumTypeName options = enumTypeName others ↔
      (Digest.hashBytes (framedOptions options)).take 8 =
        (Digest.hashBytes (framedOptions others)).take 8 := by
  rw [enumTypeName, enumTypeName, String.append_right_inj, Value.hex_inj]

namespace Dialect

theorem typeName_postgres_enum (c : Column) (options : List String) :
    postgres.typeName { c with type := .enum, options } =
      postgres.quoteIdentifier (enumTypeName options) := rfl

/-- The frames in a row determine the options, so two enumerations have one type exactly if their
options are the same or the digests of different frames begin alike. -/
theorem sharesType_iff {options others : List String}
    (short : ∀ option ∈ options ++ others, option.utf8ByteSize < 2 ^ 64) (c e : Column) :
    (framedOptions options = framedOptions others ↔ options = others) ∧
      (postgres.typeName { c with type := .enum, options } =
          postgres.typeName { e with type := .enum, options := others } ↔
        options = others ∨ Digest.Collide (framedOptions options) (framedOptions others)) := by
  have frames := framedOptions_inj short
  have names : postgres.typeName { c with type := .enum, options } =
      postgres.typeName { e with type := .enum, options := others } ↔
        (Digest.hashBytes (framedOptions options)).take 8 =
          (Digest.hashBytes (framedOptions others)).take 8 := by
    rw [typeName_postgres_enum, typeName_postgres_enum]
    exact (quoteIdentifier_inj (by decide)).trans (enumTypeName_eq_iff options others)
  refine ⟨frames, names.trans ⟨fun digests => ?_, ?_⟩⟩
  · by_cases same : options = others
    · exact .inl same
    · exact .inr ⟨frames.not.mpr same, digests⟩
  · rintro (rfl | ⟨-, digests⟩)
    · rfl
    · exact digests

/-- An option may look like the end of one frame and the beginning of the next: only the first
bytes of these frames differ. -/
theorem sharesType_iff_of_option_like_frames :
    let options := ["a", "b"]
    let others := ["a\x01\x00\x00\x00\x00\x00\x00\x00b"]
    let c : Column := { name := "c", type := .enum }
    (∀ option ∈ options ++ others, option.utf8ByteSize < 2 ^ 64) ∧
      (framedOptions options).tail = (framedOptions others).tail ∧
      framedOptions options ≠ framedOptions others ∧
      ¬Digest.Collide (framedOptions options) (framedOptions others) ∧
      postgres.typeName { c with type := .enum, options } ≠
        postgres.typeName { c with type := .enum, options := others } := by
  intro options others c
  have short : ∀ option ∈ options ++ others, option.utf8ByteSize < 2 ^ 64 := by decide
  have other : options ≠ others := by decide
  have apart : ¬Digest.Collide (framedOptions options) (framedOptions others) := by
    rintro ⟨-, digests⟩
    revert digests
    decide +kernel
  obtain ⟨frames, names⟩ := sharesType_iff short c c
  have tails : (framedOptions options).tail = (framedOptions others).tail := by decide +kernel
  exact ⟨short, tails, frames.not.mpr other, apart, names.not.mpr (not_or.mpr ⟨other, apart⟩)⟩

end Dialect

end SqlComposer
