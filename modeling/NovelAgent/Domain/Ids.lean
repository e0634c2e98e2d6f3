import Mathlib.Data.List.Basic
import NovelAgent.Core.Sha256

/-!
# Identities

Stable business identities and content-addressed identities.
-/

namespace NovelAgent.Domain

open Core List

/-- A character that an identity may start with. -/
def isAlnum (c : Char) : Bool :=
  c.isUpper || c.isLower || c.isDigit

/-- A character that may stand anywhere else in an identity. -/
def isIdChar (c : Char) : Bool :=
  isAlnum c || c == '.' || c == '_' || c == ':' || c == '-'

/-- The characters of `^[A-Za-z0-9][A-Za-z0-9._:-]{0,127}$`. -/
def isStableIdChars : List Char → Bool
  | [] => false
  | c :: rest => isAlnum c && rest.all isIdChar && rest.length ≤ 127

def isStableId (s : String) : Bool := isStableIdChars s.toList

/-- A stable identity: a string together with the fact that it matched. -/
structure StableId where
  root : String
  valid : isStableId root = true
deriving DecidableEq

instance : LawfulBEq (StableId × String) := inferInstance

abbrev ProjectId := StableId
abbrev RunId := StableId
abbrev TaskId := StableId

/-- The characters of `^sha256:[0-9a-f]{64}$`. -/
def isContentHash (s : String) : Bool :=
  s.toList.take 7 == "sha256:".toList && (s.toList.drop 7).all Sha256.isHexDigit &&
    (s.toList.drop 7).length == 64

/-- A validated string, as the others are. -/
structure ContentHash where
  root : String
  valid : isContentHash root = true
deriving DecidableEq

abbrev CommitId := ContentHash
abbrev ArtifactId := ContentHash

/-- The pattern `^[0-9]+\.[0-9]+\.[0-9]+$`. -/
def isSchemaVersion (s : String) : Bool :=
  let parts := s.toList.splitOn '.'
  parts.length == 3 && parts.all fun part => !part.isEmpty && part.all Char.isDigit

/-- Three numbers and dots. -/
structure SchemaVersion where
  root : String
  valid : isSchemaVersion root = true
deriving DecidableEq

/-- The output of `secrets.token_hex`: two hexadecimal digits a byte. -/
structure HexToken (bytes : Nat) where
  text : String
  length_eq : text.toList.length = 2 * bytes
  isHex : text.toList.all Sha256.isHexDigit = true

/-- The content address of a string. -/
def digest (value : String) : ContentHash where
  root := "sha256:" ++ Sha256.hexdigest value
  valid := by
    have hlist : ("sha256:" ++ Sha256.hexdigest value).toList =
        "sha256:".toList ++ (Sha256.hexdigest value).toList := String.toList_append
    have hlen : "sha256:".toList.length = 7 := by decide
    simp [isContentHash, hlist, ← hlen, Sha256.hexdigest_isHex, Sha256.hexdigest_toList_length]

/-- Texts with different digests, in a form that is evaluated fast. -/
theorem digest_ne {first second : String}
    (h : Sha256.digitsOf first ≠ Sha256.digitsOf second) : digest first ≠ digest second := by
  intro heq
  have hdigits := congrArg (fun id : ContentHash => id.root.toList) heq
  simp only [digest, Sha256.hexdigest, String.toList_append, append_cancel_left_eq,
    String.toList_ofList] at hdigits
  exact h hdigits

/-- The first digits of the hash of a text. -/
def HexToken.ofDigest (bytes : Nat) (h : bytes ≤ 32) (text : String) : HexToken bytes where
  text := String.ofList ((Sha256.hexdigest text).toList.take (2 * bytes))
  length_eq := by
    rw [String.toList_ofList, length_take, Sha256.hexdigest_toList_length]
    omega
  isHex := by
    rw [String.toList_ofList, all_eq_true]
    intro c hc
    exact all_eq_true.mp (Sha256.hexdigest_isHex text) c (mem_of_mem_take hc)

theorem HexToken.twelve_le : 12 ≤ 32 := by decide

theorem HexToken.sixteen_le : 16 ≤ 32 := by decide

theorem HexToken.twenty_le : 20 ≤ 32 := by decide

namespace StableId

def ofString? (s : String) : Option StableId :=
  if h : isStableId s = true then some ⟨s, h⟩ else none

theorem ofString?_eq_some (s : String) (id : StableId) :
    ofString? s = some id ↔ id.root = s := by
  unfold ofString?
  split
  · rename_i h
    constructor
    · intro heq
      rw [← Option.some.inj heq]
    · rintro rfl
      rfl
  · rename_i h
    simp only [reduceCtorEq, false_iff]
    rintro rfl
    exact h id.valid

theorem root_inj {a b : StableId} : a.root = b.root ↔ a = b := by
  cases a
  cases b
  simp

@[simp] theorem ofString?_root (id : StableId) : ofString? id.root = some id :=
  (ofString?_eq_some id.root id).mpr rfl

end StableId

/-- The first candidate that fits the pattern. -/
def boundedStableId (candidates : List String) : Option StableId :=
  candidates.findSome? StableId.ofString?

/-- Ending the candidates with an identity that is already valid makes the choice succeed. -/
theorem boundedStableId_eq_some (candidates : List String) (id : StableId) :
    ∃ chosen, boundedStableId (candidates ++ [id.root]) = some chosen := by
  rw [boundedStableId, List.findSome?_append]
  cases h : candidates.findSome? StableId.ofString? with
  | none => exact ⟨id, by simp⟩
  | some chosen => exact ⟨chosen, by simp⟩

theorem isIdChar_of_isHexDigit (c : Char) (h : Sha256.isHexDigit c = true) : isIdChar c = true := by
  have hmem : c ∈ Sha256.hexDigits := by simpa [Sha256.isHexDigit] using h
  have hall : Sha256.hexDigits.all isIdChar = true := by decide
  exact all_eq_true.mp hall c hmem

/-- A readable head followed by a token is an identity as long as the two fit
    the length limit together. -/
theorem isStableId_append_token {bytes : Nat} (head : String) (token : HexToken bytes)
    (hhead : isStableId head = true) (hfit : head.toList.length + 2 * bytes ≤ 128) :
    isStableId (head ++ token.text) = true := by
  have hlist : (head ++ token.text).toList = head.toList ++ token.text.toList :=
    String.toList_append
  rw [isStableId, hlist]
  rw [isStableId] at hhead
  cases hc : head.toList with
  | nil =>
    rw [hc] at hhead
    exact absurd hhead (by decide)
  | cons c rest =>
    rw [hc] at hhead hfit
    simp only [isStableIdChars, Bool.and_eq_true, decide_eq_true_eq] at hhead
    have htoken : token.text.toList.all isIdChar = true := by
      rw [all_eq_true]
      intro d hd
      exact isIdChar_of_isHexDigit d (all_eq_true.mp token.isHex d hd)
    have hlen := token.length_eq
    simp only [length_cons] at hfit
    simp only [cons_append, isStableIdChars, all_append, length_append,
      Bool.and_eq_true, decide_eq_true_eq]
    exact ⟨⟨hhead.1.1, hhead.1.2, htoken⟩, by omega⟩

end NovelAgent.Domain
