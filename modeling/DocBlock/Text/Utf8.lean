/-
# UTF-8

The encoding of texts as octets, and two readings of octets as text.  The strict reading succeeds
on the encodings of texts only.  The lenient reading always succeeds: it puts the replacement
character U+FFFD in the place of every ill-formed part, where an ill-formed part is either an octet
that starts no character or as much of the encoding of a character as there is.

Both readings come from one scan, which cuts octets into characters and ill-formed parts.
-/
import DocBlock.Text.Basic

namespace DocBlock

namespace Utf8

/-- The encoding of a text. -/
def encode (t : Text) : Bytes := t.flatMap String.utf8EncodeChar

/-- The range of the octets that continue the encoding of a character, ends included. -/
def continuation : Nat × Nat := (0x80, 0xBF)

/-- What the first octet of the encoding of a character says: the part of the code point that it
holds, and the ranges in which the octets after it lie.  The range of the second octet is narrower
where it has to exclude a code point with a shorter encoding, a surrogate, or a number beyond the
last code point. -/
def lead (n : Nat) : Option (Nat × List (Nat × Nat)) :=
  if n < 0x80 then some (n, [])
  else if n < 0xC2 then none
  else if n < 0xE0 then some (n - 0xC0, [continuation])
  else if n = 0xE0 then some (0, [(0xA0, 0xBF), continuation])
  else if n = 0xED then some (13, [(0x80, 0x9F), continuation])
  else if n < 0xF0 then some (n - 0xE0, [continuation, continuation])
  else if n = 0xF0 then some (0, [(0x90, 0xBF), continuation, continuation])
  else if n < 0xF4 then some (n - 0xF0, [continuation, continuation, continuation])
  else if n = 0xF4 then some (4, [(0x80, 0x8F), continuation, continuation])
  else none

/-- Reads octets that lie in the given ranges, six bits each, after the part `n` of a code point.
The result is the code point, if all octets are there, and what remains to be read. -/
def follow : List (Nat × Nat) → Nat → Bytes → Option Nat × Bytes
  | [], n, bs => (some n, bs)
  | _ :: _, _, [] => (none, [])
  | r :: rs, n, b :: bs =>
    if r.1 ≤ b.toNat ∧ b.toNat ≤ r.2 then follow rs (n * 64 + (b.toNat - 0x80)) bs
    else (none, b :: bs)

/-- Reads a character, or an ill-formed part, that starts with the octet `b`. -/
def next (b : UInt8) (bs : Bytes) : Option Char × Bytes :=
  match lead b.toNat with
  | none => (none, bs)
  | some (n, rs) => ((follow rs n bs).1.map Char.ofNat, (follow rs n bs).2)

/-- Reading on does not make the rest longer. -/
theorem length_follow_le (rs : List (Nat × Nat)) (n : Nat) (bs : Bytes) :
    (follow rs n bs).2.length ≤ bs.length := by
  fun_induction follow rs n bs with
  | case1 => simp
  | case2 => simp
  | case3 r rs n b bs h ih => simp only [List.length_cons]; omega
  | case4 => simp

/-- What remains after a character is not longer than what followed its first octet. -/
theorem length_next_le (b : UInt8) (bs : Bytes) : (next b bs).2.length ≤ bs.length := by
  unfold next
  split
  · simp
  · exact length_follow_le _ _ _

/-- The characters and ill-formed parts of a sequence of octets.  An ill-formed part is shown by
`none`. -/
def scan : Bytes → List (Option Char)
  | [] => []
  | b :: bs => (next b bs).1 :: scan (next b bs).2
  termination_by bs => bs.length
  decreasing_by
    have := length_next_le b bs
    simp only [List.length_cons]; omega

/-- The text with the given encoding, if there is one. -/
def decode? (bs : Bytes) : Option Text := (scan bs).mapM id

/-- The text of a sequence of octets, with U+FFFD in the place of every ill-formed part. -/
def decodeLossy (bs : Bytes) : Text := (scan bs).map fun c => c.getD '\uFFFD'

/-! ## Reading what was written -/

/-- An octet in the range of continuations adds six bits to the code point. -/
theorem follow_cons {r : Nat × Nat} {b : UInt8} (h₁ : r.1 ≤ b.toNat) (h₂ : b.toNat ≤ r.2)
    (rs : List (Nat × Nat)) (n : Nat) (bs : Bytes) :
    follow (r :: rs) n (b :: bs) = follow rs (n * 64 + (b.toNat - 0x80)) bs := by
  rw [follow, if_pos ⟨h₁, h₂⟩]

/-- Reading the encoding of a character gives the character and leaves what comes after it. -/
theorem next_encodeChar (c : Char) (bs : Bytes) :
    ∃ b rest, String.utf8EncodeChar c = b :: rest ∧ next b (rest ++ bs) = (some c, bs) := by
  have hv : c.val.toNat < 0xD800 ∨ 0xDFFF < c.val.toNat ∧ c.val.toNat < 0x110000 := c.valid
  have hc : Char.ofNat c.val.toNat = c := Char.ofNat_toNat c
  generalize hn : c.val.toNat = n at hv hc
  have byte (k : Nat) (hk : k < 256) : (UInt8.ofNat k).toNat = k := by
    simpa using Nat.mod_eq_of_lt hk
  have octet {r : Nat × Nat} {k : Nat} (h₁ : r.1 ≤ k) (h₂ : k ≤ r.2) (hk : k < 256)
      (rs : List (Nat × Nat)) (m : Nat) (ds : Bytes) :
      follow (r :: rs) m (UInt8.ofNat k :: ds) = follow rs (m * 64 + (k - 0x80)) ds := by
    rw [follow_cons (by rwa [byte k hk]) (by rwa [byte k hk]), byte k hk]
  unfold String.utf8EncodeChar
  simp only [hn]
  split
  · have hl : lead n = some (n, []) := by grind [lead]
    refine ⟨_, _, rfl, ?_⟩
    rw [next, byte _ (by omega), hl]
    simp only [List.nil_append, follow, Option.map_some, hc]
  split
  · have hl : lead (n / 64 % 32 + 192) = some (n / 64, [continuation]) := by grind [lead]
    refine ⟨_, _, rfl, ?_⟩
    rw [next, byte _ (by omega), hl]
    simp only [List.cons_append, List.nil_append]
    rw [octet (by simp [continuation]) (by simp [continuation]; omega) (by omega)]
    have hs : n / 64 * 64 + (n % 64 + 128 - 128) = n := by omega
    simp only [follow, Option.map_some, hs, hc]
  split
  · have hl : ∃ r : Nat × Nat,
        lead (n / 4096 % 16 + 224) = some (n / 4096, [r, continuation]) ∧
        r.1 ≤ n / 64 % 64 + 128 ∧ n / 64 % 64 + 128 ≤ r.2 := by
      grind [lead, continuation]
    obtain ⟨r, hl, h₁, h₂⟩ := hl
    refine ⟨_, _, rfl, ?_⟩
    rw [next, byte _ (by omega), hl]
    simp only [List.cons_append, List.nil_append]
    rw [octet h₁ h₂ (by omega),
      octet (by simp [continuation]) (by simp [continuation]; omega) (by omega)]
    have hs : (n / 4096 * 64 + (n / 64 % 64 + 128 - 128)) * 64 + (n % 64 + 128 - 128) = n := by
      omega
    simp only [follow, Option.map_some, hs, hc]
  · have hl : ∃ r : Nat × Nat,
        lead (n / 262144 % 8 + 240) = some (n / 262144, [r, continuation, continuation]) ∧
        r.1 ≤ n / 4096 % 64 + 128 ∧ n / 4096 % 64 + 128 ≤ r.2 := by
      grind [lead, continuation]
    obtain ⟨r, hl, h₁, h₂⟩ := hl
    refine ⟨_, _, rfl, ?_⟩
    rw [next, byte _ (by omega), hl]
    simp only [List.cons_append, List.nil_append]
    rw [octet h₁ h₂ (by omega),
      octet (by simp [continuation]) (by simp [continuation]; omega) (by omega),
      octet (by simp [continuation]) (by simp [continuation]; omega) (by omega)]
    have hs : ((n / 262144 * 64 + (n / 4096 % 64 + 128 - 128)) * 64 +
        (n / 64 % 64 + 128 - 128)) * 64 + (n % 64 + 128 - 128) = n := by
      omega
    simp only [follow, Option.map_some, hs, hc]

/-- The encoding of a text is cut into its characters. -/
theorem scan_encode (t : Text) : scan (encode t) = t.map some := by
  induction t with
  | nil => simp [encode, scan]
  | cons c t ih =>
    obtain ⟨b, rest, hb, hn⟩ := next_encodeChar c (encode t)
    have he : encode (c :: t) = b :: (rest ++ encode t) := by
      simp [encode, hb]
    rw [he, scan, hn, ih, List.map_cons]

/-- A text is read back from its encoding. -/
@[simp]
theorem decode?_encode (t : Text) : decode? (encode t) = some t := by
  rw [decode?, scan_encode]
  induction t with
  | nil => rfl
  | cons c t ih => simp [List.mapM_cons, ih]

end Utf8

end DocBlock
