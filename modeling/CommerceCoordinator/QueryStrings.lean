import CommerceCoordinator.Grouping
import CommerceCoordinator.UrlQuoting
import Mathlib.Data.List.Basic

-- Query strings: how a list of named values is written in one, and what a reader of
-- any query string makes of it.
namespace QueryStrings
open UrlQuoting

section Pairs

-- urllib.parse.urlencode
def pairText (pair : String × String) : List Char := pair.1.toList.flatMap quoteChar ++ '=' :: pair.2.toList.flatMap quoteChar

def urlencode (pairs : List (String × String)) : String := String.ofList (['&'].intercalate (pairs.map pairText))

def readPair (text : List Char) : String × String :=
  (String.ofList (unquotePlus (text.takeWhile (· ≠ '='))),
    String.ofList (unquotePlus ((text.dropWhile (· ≠ '=')).drop 1)))

-- urllib.parse.parse_qsl that keeps blank values
def parseQsl (qs : String) : List (String × String) := ((qs.toList.splitOn '&').filter (· ≠ [])).map readPair

theorem quoted_without {mark char : Char} (text : List Char) (special : ¬quotedCode mark.toNat)
    (member : char ∈ text.flatMap quoteChar) : char ≠ mark := by
  rintro rfl
  obtain ⟨written,_,inside⟩ := List.mem_flatMap.mp member
  exact special (quoteChar_code inside)

theorem equals_special : ¬quotedCode '='.toNat := by simp [quotedCode,unreservedCode]
theorem ampersand_special : ¬quotedCode '&'.toNat := by simp [quotedCode,unreservedCode]

theorem read_pair (pair : String × String) : readPair (pairText pair) = pair := by
  have named : ∀ char ∈ pair.1.toList.flatMap quoteChar, decide (char ≠ '=') = true := fun char member =>
    decide_eq_true (quoted_without _ equals_special member)
  unfold readPair pairText
  rw [List.takeWhile_append_of_pos named,List.dropWhile_append_of_pos named]
  simp only [List.takeWhile_cons,List.dropWhile_cons,ne_eq,not_true_eq_false,decide_false,Bool.false_eq_true,if_false,
    List.append_nil,List.drop_succ_cons,List.drop_zero,unquotePlus_quoted,String.ofList_toList]

theorem pair_without_ampersand (pair : String × String) : '&' ∉ pairText pair := by
  intro member
  rcases List.mem_append.mp member with name | later
  · exact quoted_without _ ampersand_special name rfl
  · rcases List.mem_cons.mp later with never | value
    · cases never
    · exact quoted_without _ ampersand_special value rfl

theorem parse_urlencode (pairs : List (String × String)) : parseQsl (urlencode pairs) = pairs := by
  unfold parseQsl urlencode
  rw [String.toList_ofList]
  cases pairs with
  | nil => rfl
  | cons pair rest =>
    have apart : ∀ text ∈ (pair::rest).map pairText, '&' ∉ text := by
      intro text member
      obtain ⟨written,_,rfl⟩ := List.mem_map.mp member
      exact pair_without_ampersand written
    have filled : ∀ text ∈ (pair::rest).map pairText, decide (text ≠ []) = true := by
      intro text member
      obtain ⟨written,_,rfl⟩ := List.mem_map.mp member
      exact decide_eq_true (List.append_ne_nil_of_right_ne_nil _ (List.cons_ne_nil _ _))
    rw [List.splitOn_intercalate '&' apart (by simp),List.filter_eq_self.mpr filled,List.map_map]
    calc (pair::rest).map (readPair ∘ pairText)
        = (pair::rest).map id := List.map_congr_left fun written _ => read_pair written
      _ = pair::rest := List.map_id _

end Pairs

section Lists

def append (d : List (String × List String)) (pair : String × String) : List (String × List String) :=
  Grouping.change [] (·++[pair.2]) d pair.1

def lists (pairs : List (String × String)) : List (String × List String) := pairs.foldl append []

def pairsOf (lists : List (String × List String)) : List (String × String) :=
  lists.flatMap fun entry => entry.2.map fun value => (entry.1,value)

structure WellFormed (lists : List (String × List String)) : Prop where
  distinct : (lists.map (·.1)).Nodup
  filled : ∀ entry ∈ lists, entry.2 ≠ []

theorem WellFormed.append {d : List (String × List String)} (wellFormed : WellFormed d) (pair : String × String) :
    WellFormed (append d pair) := by
  refine ⟨Grouping.distinct_change wellFormed.distinct pair.1,fun entry member => ?_⟩
  rcases Grouping.mem_change member with old | rfl
  · exact wellFormed.filled entry old
  · exact List.append_ne_nil_of_right_ne_nil _ (List.cons_ne_nil _ _)

theorem lists_wellFormed (pairs : List (String × String)) : WellFormed (lists pairs) := by
  have grown : ∀ d, WellFormed d → WellFormed (pairs.foldl append d) := by
    induction pairs with
    | nil => exact fun d wellFormed => wellFormed
    | cons pair rest ih => exact fun d wellFormed => ih (append d pair) (wellFormed.append pair)
  exact grown [] ⟨List.nodup_nil,by simp⟩

theorem append_new {d : List (String × List String)} {name value : String} (fresh : name ∉ d.map (·.1)) :
    append d (name,value) = d++[(name,[value])] := by
  unfold append
  induction d with
  | nil => rfl
  | cons entry rest ih =>
    rw [List.map_cons,List.mem_cons,not_or] at fresh
    rw [Grouping.change,if_neg (Ne.symm fresh.1),ih fresh.2,List.cons_append]

theorem append_last {d : List (String × List String)} {name value : String} {values : List String}
    (fresh : name ∉ d.map (·.1)) : append (d++[(name,values)]) (name,value) = d++[(name,values++[value])] := by
  unfold append
  induction d with
  | nil => simp [Grouping.change]
  | cons entry rest ih =>
    rw [List.map_cons,List.mem_cons,not_or] at fresh
    rw [List.cons_append,Grouping.change,if_neg (Ne.symm fresh.1),ih fresh.2,List.cons_append]

theorem values_appended {d : List (String × List String)} {name : String} {values : List String} (fresh : name ∉ d.map (·.1))
    (more : List String) :
    (more.map fun value => (name,value)).foldl append (d++[(name,values)]) = d++[(name,values++more)] := by
  induction more generalizing values with
  | nil => rw [List.append_nil]; rfl
  | cons value rest ih =>
    rw [List.map_cons,List.foldl_cons,append_last fresh,ih,List.append_assoc]
    rfl

theorem lists_rebuilt {d later : List (String × List String)} (wellFormed : WellFormed (d++later)) :
    (pairsOf later).foldl append d = d++later := by
  induction later generalizing d with
  | nil => rw [List.append_nil]; rfl
  | cons entry rest ih =>
    obtain ⟨name,values⟩ := entry
    have fresh : name ∉ d.map (·.1) := by
      have distinct := wellFormed.distinct
      rw [List.map_append] at distinct
      exact fun member => (List.nodup_append.mp distinct).2.2 name member name List.mem_cons_self rfl
    have shifted : d++(name,values)::rest = (d++[(name,values)])++rest := by simp
    rw [shifted] at wellFormed ⊢
    cases values with
    | nil =>
      have filled := wellFormed.filled (name,[]) (by simp)
      exact absurd rfl filled
    | cons value more =>
      have first : pairsOf ((name,value::more)::rest) = (name,value)::(more.map fun value => (name,value))++pairsOf rest := by
        simp [pairsOf]
      rw [first,List.cons_append,List.foldl_cons,append_new fresh,List.foldl_append,values_appended fresh]
      exact ih wellFormed

theorem lists_pairsOf {d : List (String × List String)} (wellFormed : WellFormed d) : lists (pairsOf d) = d :=
  lists_rebuilt (d := []) wellFormed

theorem lists_kept (qs : String) : lists (parseQsl (urlencode (pairsOf (lists (parseQsl qs))))) = lists (parseQsl qs) := by
  rw [parse_urlencode]
  exact lists_pairsOf (lists_wellFormed _)

end Lists
end QueryStrings
