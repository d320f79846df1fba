import CommerceCoordinator.UrlQuoting

-- core/memcache.py: keys that memcached accepts.
namespace Memcache
open UrlQuoting

def MEMCACHE_KEY_LEN_MAX : Nat := 250
def HASH_ALOG_LENGTH_LEN : Nat := 32

def cleanedString (val : String) : String := quotePlus val

-- `fasthash` is the MD5 digest in hexadecimal digits.
def safeKey (fasthash : String → String) (key keyPrefix version : String) : String :=
  let key := cleanedString key
  let keyPrefix := cleanedString keyPrefix
  let version := cleanedString version
  let keyVer := ":".intercalate [keyPrefix,version,""]
  let prefixTooLong : Bool := keyVer.length+2 > MEMCACHE_KEY_LEN_MAX-HASH_ALOG_LENGTH_LEN
  let combined := keyVer ++ key
  if combined.length > MEMCACHE_KEY_LEN_MAX then
    if prefixTooLong then fasthash combined else keyVer ++ fasthash combined
  else combined

example : safeKey id "é b" "view" "1" = "view:1:%C3%A9+b" := by decide +kernel

section Quoting

theorem cleaned_code {val : String} {c : Char} (member : c ∈ (cleanedString val).toList) : quotedCode c.toNat := by
  rw [cleanedString,quotePlus,String.toList_ofList] at member
  obtain ⟨written,_,inside⟩ := List.mem_flatMap.mp member
  exact quoteChar_code inside

theorem separator_free (val : String) : ':' ∉ (cleanedString val).toList := by
  intro member
  have code := cleaned_code member
  revert code
  simp [quotedCode,unreservedCode]

end Quoting

section Keys

theorem prefix_version (keyPrefix version : String) :
    ":".intercalate [keyPrefix,version,""] = keyPrefix++":"++version++":" := by
  change keyPrefix++":"++version++":"++"" = _
  rw [String.append_empty]

def combined (key keyPrefix version : String) : String :=
  cleanedString keyPrefix++":"++cleanedString version++":"++cleanedString key

def keyVer (keyPrefix version : String) : String := cleanedString keyPrefix++":"++cleanedString version++":"

theorem safe_key_eq (fasthash : String → String) (key keyPrefix version : String) :
    safeKey fasthash key keyPrefix version =
      if (combined key keyPrefix version).length > MEMCACHE_KEY_LEN_MAX then
        if (keyVer keyPrefix version).length+2 > MEMCACHE_KEY_LEN_MAX-HASH_ALOG_LENGTH_LEN then
          fasthash (combined key keyPrefix version)
        else keyVer keyPrefix version++fasthash (combined key keyPrefix version)
      else combined key keyPrefix version := by
  simp only [safeKey,prefix_version,decide_eq_true_eq]
  rfl

theorem safe_key_cases (fasthash : String → String) (key keyPrefix version : String) :
    (combined key keyPrefix version).length ≤ MEMCACHE_KEY_LEN_MAX ∧
      safeKey fasthash key keyPrefix version = combined key keyPrefix version ∨
    MEMCACHE_KEY_LEN_MAX < (combined key keyPrefix version).length ∧
      (safeKey fasthash key keyPrefix version = fasthash (combined key keyPrefix version) ∨
      (keyVer keyPrefix version).length+2 ≤ MEMCACHE_KEY_LEN_MAX-HASH_ALOG_LENGTH_LEN ∧
      safeKey fasthash key keyPrefix version = keyVer keyPrefix version++fasthash (combined key keyPrefix version)) := by
  rw [safe_key_eq]
  by_cases long : (combined key keyPrefix version).length > MEMCACHE_KEY_LEN_MAX
  · rw [if_pos long]
    refine .inr ⟨long,?_⟩
    by_cases full : (keyVer keyPrefix version).length+2 > MEMCACHE_KEY_LEN_MAX-HASH_ALOG_LENGTH_LEN
    · exact .inl (if_pos full)
    · exact .inr ⟨Nat.le_of_not_lt full,if_neg full⟩
  · exact .inl ⟨Nat.le_of_not_lt long,if_neg long⟩

structure HexDigest (fasthash : String → String) : Prop where
  length : ∀ s, (fasthash s).length = HASH_ALOG_LENGTH_LEN
  digits : ∀ s, ∀ c ∈ (fasthash s).toList, 48 ≤ c.toNat ∧ c.toNat ≤ 57 ∨ 97 ≤ c.toNat ∧ c.toNat ≤ 102

def isControl (c : Char) : Prop := c.toNat < 32 ∨ 127 ≤ c.toNat ∧ c.toNat < 160

structure Accepted (cacheKey : String) : Prop where
  short : cacheKey.length ≤ MEMCACHE_KEY_LEN_MAX
  printable : ∀ c ∈ cacheKey.toList, ¬ isControl c ∧ c ≠ ' ' ∧ c.toNat ≠ 127

def Printable (s : String) : Prop := ∀ c ∈ s.toList, 32 < c.toNat ∧ c.toNat < 127

theorem printable_append {s t : String} : Printable (s++t) ↔ Printable s ∧ Printable t := by
  simp only [Printable,String.toList_append,List.forall_mem_append]

theorem cleaned_printable (val : String) : Printable (cleanedString val) := by
  intro c member
  have code := cleaned_code member
  unfold quotedCode unreservedCode at code
  omega

theorem prefix_printable (keyPrefix version : String) :
    Printable (keyVer keyPrefix version) := by
  have separator : Printable ":" := by
    intro c member
    obtain rfl : c = ':' := by simpa using member
    decide
  simp only [keyVer,printable_append]
  exact ⟨⟨⟨cleaned_printable _,separator⟩,cleaned_printable _⟩,separator⟩

theorem safe_key_printable {fasthash : String → String} (digest : HexDigest fasthash) (key keyPrefix version : String) :
    Printable (safeKey fasthash key keyPrefix version) := by
  have hashed : ∀ s, Printable (fasthash s) := by
    intro s c member
    have digit := digest.digits s c member
    omega
  rcases safe_key_cases fasthash key keyPrefix version with ⟨_,whole⟩ | ⟨_,whole | ⟨_,whole⟩⟩
  · rw [whole]
    exact printable_append.mpr ⟨prefix_printable _ _,cleaned_printable _⟩
  · rw [whole]
    exact hashed _
  · rw [whole]
    exact printable_append.mpr ⟨prefix_printable _ _,hashed _⟩

theorem safe_key_short {fasthash : String → String} (digest : HexDigest fasthash) (key keyPrefix version : String) :
    (safeKey fasthash key keyPrefix version).length ≤ MEMCACHE_KEY_LEN_MAX := by
  rcases safe_key_cases fasthash key keyPrefix version with ⟨short,whole⟩ | ⟨_,whole | ⟨short,whole⟩⟩
  · rw [whole]
    exact short
  · rw [whole,digest.length]
    decide
  · rw [whole,String.length_append,digest.length]
    have room : MEMCACHE_KEY_LEN_MAX-HASH_ALOG_LENGTH_LEN+HASH_ALOG_LENGTH_LEN = MEMCACHE_KEY_LEN_MAX := rfl
    omega

theorem split_unique {α : Type} {separator : α} {first first' rest rest' : List α} (clean : separator ∉ first)
    (clean' : separator ∉ first') (same : first++separator::rest = first'++separator::rest') : first = first' ∧ rest = rest' := by
  induction first generalizing first' with
  | nil =>
    cases first' with
    | nil => exact ⟨rfl,List.tail_eq_of_cons_eq same⟩
    | cons head tail => exact absurd (List.head_eq_of_cons_eq same ▸ List.mem_cons_self) clean'
  | cons head tail ih =>
    cases first' with
    | nil => exact absurd (List.head_eq_of_cons_eq same ▸ List.mem_cons_self) clean
    | cons head' tail' =>
      obtain ⟨rfl,later⟩ := List.cons_eq_cons.mp same
      obtain ⟨rfl,last⟩ := ih (fun member => clean (.tail _ member)) (fun member => clean' (.tail _ member)) later
      exact ⟨rfl,last⟩

theorem combined_injective {key keyPrefix version key' keyPrefix' version' : String}
    (same : combined key keyPrefix version = combined key' keyPrefix' version') :
    key = key' ∧ keyPrefix = keyPrefix' ∧ version = version' := by
  have chars := congrArg String.toList same
  have separator : ":".toList = [':'] := rfl
  simp only [combined,String.toList_append,List.append_assoc,separator,List.singleton_append] at chars
  obtain ⟨first,rest⟩ := split_unique (separator_free _) (separator_free _) chars
  obtain ⟨second,third⟩ := split_unique (separator_free _) (separator_free _) rest
  exact ⟨quotePlus_injective (String.toList_inj.mp third),quotePlus_injective (String.toList_inj.mp first),
    quotePlus_injective (String.toList_inj.mp second)⟩

theorem safe_key_distinct {fasthash : String → String} {key keyPrefix version key' keyPrefix' version' : String}
    (fits : (combined key keyPrefix version).length ≤ MEMCACHE_KEY_LEN_MAX)
    (fits' : (combined key' keyPrefix' version').length ≤ MEMCACHE_KEY_LEN_MAX)
    (same : safeKey fasthash key keyPrefix version = safeKey fasthash key' keyPrefix' version') :
    key = key' ∧ keyPrefix = keyPrefix' ∧ version = version' := by
  have kept : ∀ {key keyPrefix version}, (combined key keyPrefix version).length ≤ MEMCACHE_KEY_LEN_MAX →
      safeKey fasthash key keyPrefix version = combined key keyPrefix version := by
    intro key keyPrefix version fits
    rcases safe_key_cases fasthash key keyPrefix version with ⟨_,whole⟩ | ⟨long,_⟩
    · exact whole
    · exact absurd fits (Nat.not_le_of_lt long)
  rw [kept fits,kept fits'] at same
  exact combined_injective same

theorem keys_accepted_and_distinct {fasthash : String → String} (digest : HexDigest fasthash) :
    (∀ key keyPrefix version, Accepted (safeKey fasthash key keyPrefix version)) ∧
    ∀ key keyPrefix version key' keyPrefix' version',
      (combined key keyPrefix version).length ≤ MEMCACHE_KEY_LEN_MAX →
      (combined key' keyPrefix' version').length ≤ MEMCACHE_KEY_LEN_MAX →
      safeKey fasthash key keyPrefix version = safeKey fasthash key' keyPrefix' version' →
      key = key' ∧ keyPrefix = keyPrefix' ∧ version = version' := by
  refine ⟨fun key keyPrefix version => ⟨safe_key_short digest key keyPrefix version,fun c member => ?_⟩,?_⟩
  · have printable := safe_key_printable digest key keyPrefix version c member
    refine ⟨by unfold isControl; omega,?_,by omega⟩
    rintro rfl
    exact absurd printable.1 (by decide)
  · intro key keyPrefix version key' keyPrefix' version' fits fits' same
    exact safe_key_distinct fits fits' same

-- The digest of "view:1:" before three hundred letters k.
def longKeyDigest : String := "58fa18eca56efda3cb378072bd52222d"

theorem long_key_accepted :
    Accepted (safeKey (fun _ => longKeyDigest) (String.ofList (List.replicate 300 'k')) "view" "1") ∧
    safeKey (fun _ => longKeyDigest) "b" "view:a" "1" ≠ safeKey (fun _ => longKeyDigest) "a:b" "view" "1" := by
  have digits : (longKeyDigest.toList.all fun c => 48 ≤ c.toNat ∧ c.toNat ≤ 57 ∨ 97 ≤ c.toNat ∧ c.toNat ≤ 102) = true := by
    decide +kernel
  have digest : HexDigest fun _ => longKeyDigest :=
    ⟨fun _ => by decide +kernel,fun _ c member => of_decide_eq_true (List.all_eq_true.mp digits c member)⟩
  have keys := keys_accepted_and_distinct digest
  refine ⟨keys.1 _ _ _,fun same => ?_⟩
  exact absurd (keys.2 "b" "view:a" "1" "a:b" "view" "1" (by decide +kernel) (by decide +kernel) same).1 (by decide)

end Keys

end Memcache
