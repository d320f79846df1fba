import Mathlib.Data.List.Basic

-- Texts quoted for a URL: which characters are left as they are, and how a reader gets
-- the text back.
namespace UrlQuoting

section Quote

def hexDigit (n : Nat) : Char := "0123456789ABCDEF".toList.getD n '0'

-- The characters quote leaves alone.
def unreserved (c : Char) : Bool := c.isAlphanum || c = '_' || c = '.' || c = '-' || c = '~'

def percent (byte : UInt8) : List Char := ['%',hexDigit (byte.toNat/16),hexDigit (byte.toNat%16)]

def quoteChar (c : Char) : List Char :=
  if unreserved c then [c] else if c = ' ' then ['+'] else (String.utf8EncodeChar c).flatMap percent

def quotePlus (s : String) : String := String.ofList (s.toList.flatMap quoteChar)

def unreservedCode (n : Nat) : Prop :=
  48 ≤ n ∧ n ≤ 57 ∨ 65 ≤ n ∧ n ≤ 90 ∨ 97 ≤ n ∧ n ≤ 122 ∨ n = 95 ∨ n = 46 ∨ n = 45 ∨ n = 126

theorem unreserved_code {c : Char} (kept : unreserved c = true) : unreservedCode c.toNat := by
  unfold unreserved at kept
  delta Char.isAlphanum Char.isAlpha Char.isUpper Char.isLower Char.isDigit at kept
  simp only [Bool.or_eq_true,Bool.and_eq_true,decide_eq_true_eq,UInt32.le_iff_toNat_le,ge_iff_le] at kept
  unfold unreservedCode
  rcases kept with (((((upper | lower) | digit) | rfl) | rfl) | rfl) | rfl
  · exact .inr (.inl upper)
  · exact .inr (.inr (.inl lower))
  · exact .inl digit
  all_goals decide

def quotedCode (n : Nat) : Prop := unreservedCode n ∨ n = 43 ∨ n = 37

theorem hexDigit_code (n : Nat) (digit : n < 16) : unreservedCode (hexDigit n).toNat := by
  have all : ∀ n : Fin 16, unreserved (hexDigit n) = true := by decide
  exact unreserved_code (all ⟨n,digit⟩)

theorem percent_code {byte : UInt8} {c : Char} (member : c ∈ percent byte) : quotedCode c.toNat := by
  have size := byte.toNat_lt
  rcases List.mem_cons.mp member with rfl | digits
  · exact .inr (.inr rfl)
  rcases List.mem_cons.mp digits with rfl | last
  · exact .inl (hexDigit_code _ (by omega))
  · cases List.mem_singleton.mp last
    exact .inl (hexDigit_code _ (by omega))

theorem quoteChar_code {written c : Char} (member : c ∈ quoteChar written) : quotedCode c.toNat := by
  unfold quoteChar at member
  split at member
  · cases List.mem_singleton.mp member
    exact .inl (unreserved_code ‹_›)
  · split at member
    · cases List.mem_singleton.mp member
      exact .inr (.inl rfl)
    · obtain ⟨byte,_,inside⟩ := List.mem_flatMap.mp member
      exact percent_code inside

end Quote

section Utf8

def replacement : Char := '\uFFFD'

def continuation (byte : UInt8) : Bool := 128 ≤ byte && byte < 192

-- A second byte that may follow this first byte of three or four.
def mayFollow (first second : UInt8) : Bool :=
  if first = 224 then 160 ≤ second && second < 192
  else if first = 237 then 128 ≤ second && second < 160
  else if first = 240 then 144 ≤ second && second < 192
  else if first = 244 then 128 ≤ second && second < 144
  else 225 ≤ first && first < 244 && continuation second

-- How many of these bytes, which begin no character, one replacement stands for.
def maximalSubpart : List UInt8 → Nat
  | first::second::rest =>
    if mayFollow first second then if 240 ≤ first ∧ rest.head?.any continuation then 3 else 2 else 1
  | _ => 1

-- bytes.decode('utf-8','replace'), behind bytes that are read already
def decode : Nat → List UInt8 → List Char
  | _,[] => []
  | read+1,_::rest => decode read rest
  | 0,byte::rest => match (byte::rest).toByteArray.utf8DecodeChar? 0 with
    | some char => char::decode (char.utf8Size-1) rest
    | none => replacement::decode (maximalSubpart (byte::rest)-1) rest

theorem decode_behind (read : Nat) (bytes : List UInt8) : decode read bytes = decode 0 (bytes.drop read) := by
  induction read generalizing bytes with
  | zero => rfl
  | succ read ih =>
    cases bytes with
    | nil => rfl
    | cons byte rest => exact ih rest

theorem decode_char (char : Char) (rest : List UInt8) : decode 0 (String.utf8EncodeChar char++rest) = char::decode 0 rest := by
  have size : (String.utf8EncodeChar char).length = char.utf8Size := String.length_utf8EncodeChar char
  have found : (String.utf8EncodeChar char++rest).toByteArray.utf8DecodeChar? 0 = some char := by
    rw [List.toByteArray_append]
    exact ByteArray.utf8DecodeChar?_utf8EncodeChar_append
  cases encoded : String.utf8EncodeChar char with
  | nil =>
    rw [encoded] at size
    exact absurd size.symm (Nat.ne_of_gt char.utf8Size_pos)
  | cons byte bytes =>
    rw [encoded] at found size
    rw [List.cons_append] at found ⊢
    rw [decode,found]
    have behind : char.utf8Size-1 = bytes.length := by rw [← size,List.length_cons,Nat.add_sub_cancel]
    simp only [behind]
    rw [decode_behind,List.drop_left]

theorem decode_encoded (text : List Char) : decode 0 (text.flatMap String.utf8EncodeChar) = text := by
  induction text with
  | nil => rfl
  | cons char rest ih => rw [List.flatMap_cons,decode_char,ih]

end Utf8

section Unquote

def hexDigitValue (char : Char) : Option Nat :=
  let code := char.toNat
  if 48 ≤ code ∧ code ≤ 57 then some (code-48)
  else if 65 ≤ code ∧ code ≤ 70 then some (code-55)
  else if 97 ≤ code ∧ code ≤ 102 then some (code-87)
  else none

def escaped (char : Char) : List Char → Option UInt8
  | high::low::_ =>
    if char = '%' then do
      let high ← hexDigitValue high
      let low ← hexDigitValue low
      return UInt8.ofNat (16*high+low)
    else none
  | _ => none

-- urllib.parse.unquote, behind characters that are read already, with the bytes of
-- the characters since the last one that is not ASCII.
def unquoteFrom : Nat → List UInt8 → List Char → List Char
  | _,bytes,[] => decode 0 bytes
  | read+1,bytes,_::rest => unquoteFrom read bytes rest
  | 0,bytes,char::rest => match escaped char rest with
    | some byte => unquoteFrom 2 (bytes++[byte]) rest
    | none =>
      if char.toNat < 128 then unquoteFrom 0 (bytes++[UInt8.ofNat char.toNat]) rest
      else decode 0 bytes++char::unquoteFrom 0 [] rest

def blankForPlus (char : Char) : Char := if char = '+' then ' ' else char

def unquotePlus (text : List Char) : List Char := unquoteFrom 0 [] (text.map blankForPlus)

theorem hexDigit_value (n : Nat) (digit : n < 16) : hexDigitValue (hexDigit n) = some n := by
  have all : ∀ n : Fin 16, hexDigitValue (hexDigit n) = some n.val := by decide
  exact all ⟨n,digit⟩

theorem hexDigit_no_plus (n : Nat) (digit : n < 16) : blankForPlus (hexDigit n) = hexDigit n := by
  have all : ∀ n : Fin 16, blankForPlus (hexDigit n) = hexDigit n := by decide
  exact all ⟨n,digit⟩

theorem unquote_percent (byte : UInt8) (bytes : List UInt8) (rest : List Char) :
    unquoteFrom 0 bytes ((percent byte).map blankForPlus++rest) = unquoteFrom 0 (bytes++[byte]) rest := by
  have size := byte.toNat_lt
  have high := hexDigit_value (byte.toNat/16) (by omega)
  have low := hexDigit_value (byte.toNat%16) (by omega)
  have whole : UInt8.ofNat (16*(byte.toNat/16)+byte.toNat%16) = byte := by rw [Nat.div_add_mod,UInt8.ofNat_toNat]
  have plain : (percent byte).map blankForPlus = percent byte := by
    rw [percent,List.map_cons,List.map_cons,List.map_cons,List.map_nil,hexDigit_no_plus _ (by omega),hexDigit_no_plus _ (by omega)]
    rfl
  have read : escaped '%' (hexDigit (byte.toNat/16)::hexDigit (byte.toNat%16)::rest) = some byte := by
    simp only [escaped,if_true,high,low,Option.bind_eq_bind,Option.bind_some,whole]
    rfl
  rw [plain,percent,List.cons_append,List.cons_append,List.cons_append,List.nil_append,unquoteFrom,read]
  rfl

theorem unquote_percents (encoded bytes : List UInt8) (rest : List Char) :
    unquoteFrom 0 bytes ((encoded.flatMap percent).map blankForPlus++rest) = unquoteFrom 0 (bytes++encoded) rest := by
  induction encoded generalizing bytes with
  | nil => rw [List.append_nil]; rfl
  | cons byte encoded ih =>
    rw [List.flatMap_cons,List.map_append,List.append_assoc,unquote_percent,ih,List.append_assoc]
    rfl

theorem unquote_char (char : Char) (bytes : List UInt8) (rest : List Char) :
    unquoteFrom 0 bytes ((quoteChar char).map blankForPlus++rest) =
      unquoteFrom 0 (bytes++String.utf8EncodeChar char) rest := by
  unfold quoteChar
  split
  · rename_i kept
    have code := unreserved_code kept
    unfold unreservedCode at code
    have ascii : String.utf8EncodeChar char = [UInt8.ofNat char.toNat] := by
      have small : char.toNat ≤ 127 := by omega
      simp [String.utf8EncodeChar,small]
    have percent : char ≠ '%' := by rintro rfl; revert code; decide
    have plus : char ≠ '+' := by rintro rfl; revert code; decide
    have plain : escaped char rest = none := by
      unfold escaped
      split
      · rw [if_neg percent]
      · rfl
    have small : char.toNat < 128 := by omega
    simp only [List.map_cons,List.map_nil,List.cons_append,List.nil_append,blankForPlus,if_neg plus]
    rw [unquoteFrom,plain,ascii]
    simp only [if_pos small]
  · split
    · rename_i blank
      cases blank
      have plain : escaped ' ' rest = none := by
        unfold escaped
        split <;> rfl
      change unquoteFrom 0 bytes (' '::rest) = _
      rw [unquoteFrom,plain]
      rfl
    · exact unquote_percents _ _ _

theorem unquote_quoted (text : List Char) (bytes : List UInt8) :
    unquoteFrom 0 bytes ((text.flatMap quoteChar).map blankForPlus) = decode 0 (bytes++text.flatMap String.utf8EncodeChar) := by
  induction text generalizing bytes with
  | nil => simp [unquoteFrom]
  | cons char rest ih =>
    rw [List.flatMap_cons,List.map_append,unquote_char,ih,List.append_assoc]
    rfl

theorem unquotePlus_quoted (text : List Char) : unquotePlus (text.flatMap quoteChar) = text := by
  rw [unquotePlus,unquote_quoted,List.nil_append,decode_encoded]

theorem quotePlus_injective {s t : String} (same : quotePlus s = quotePlus t) : s = t := by
  have chars : s.toList.flatMap quoteChar = t.toList.flatMap quoteChar := String.ofList_injective same
  have text : s.toList = t.toList := by rw [← unquotePlus_quoted s.toList,chars,unquotePlus_quoted]
  exact String.toList_inj.mp text

end Unquote

end UrlQuoting
