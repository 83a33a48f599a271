import Logbook.Proofs.Pattern.Complete
import Logbook.Proofs.Pattern.Room
import Logbook.Proofs.Pattern.Sets
import Logbook.Proofs.Record.Wire
import Logbook.Rule.Leveled

/-! The rule for JSON-like lines on the lines that records are written as. It matches each of them,
so no such line gets to a rule behind it, nor to the guessing. -/

namespace Logbook.Rule.Leveled

open Pattern (Node CharSet)
open Pattern.Node (literal)

def anySpaces : Node := .loop 0 none true (.chars (.ranges Text.blankRanges))

/-- The node of the rule, part by part. -/
def jsonLikeNode : Node :=
  .ofList (literal "\"level\":" ++ (anySpaces :: (literal "\"" ++
    (.group 1 (.loop 1 none true (.chars (.ranges Text.wordRanges))) :: (literal "\"" ++
    (.loop 0 none false (.chars (.complement (.just '\n'))) :: (literal "\"message\":" ++
    (anySpaces :: (literal "\"" ++
    (.group 2 (.loop 1 none true (.chars (.complement (.just '"')))) :: (literal "\"" ++
    [])))))))))))

theorem jsonLike_node : jsonLike.pattern.node = jsonLikeNode := by
  have hsets : jsonLikeNode.SetsFit := by
    simp (disch := decide) [jsonLikeNode, anySpaces, or_imp, forall_and]
  dsimp only [jsonLike]
  exact Pattern.node_ofText rfl (by decide +kernel) hsets (by decide)

theorem jsonLike_nests : jsonLike.pattern.node.nests = false := by
  rw [jsonLike_node]
  rfl

theorem name_word (level : Level) :
    level.name.toList ≠ [] ∧
      ∀ c ∈ level.name.toList, (CharSet.ranges Text.wordRanges).has c = true := by
  rw [← List.all_eq_true]
  cases level <;> decide

theorem quote_name (level : Level) (rest : List Char) :
    Json.quote level.name ++ rest = '"' :: (level.name.toList ++ '"' :: rest) := by
  cases level <;> rfl

/-- What stands between the opening quote of a text that is not empty and the next quote. -/
theorem exists_unquoted {s : String} (h : s ≠ "") (rest : List Char) :
    ∃ w later, s.toList.flatMap Json.escaped ++ '"' :: rest = w ++ '"' :: later ∧ w ≠ [] ∧
      ∀ c ∈ w, (CharSet.complement (.just '"')).has c = true := by
  have hquote : '"' ∈ s.toList.flatMap Json.escaped ++ '"' :: rest := by simp
  obtain ⟨w, later, heq, hw⟩ := List.eq_append_cons_of_mem hquote
  refine ⟨w, later, heq, ?_, fun c hc => CharSet.has_complement_just_iff.mpr fun hq => hw (hq ▸ hc)⟩
  rintro rfl
  obtain ⟨c, chars, hs⟩ := List.exists_cons_of_ne_nil (mt String.toList_eq_nil_iff.mp h)
  rw [hs, List.flatMap_cons] at heq
  obtain ⟨d, tail, hd, hquote⟩ := (Json.writesChar_escaped c).exists_cons
  simp [hd, hquote] at heq

theorem reads_anySpaces : anySpaces.Reads [] :=
  Node.reads_loop_chars (by simp) (Nat.le_refl 0) (by simp)

/-- What the node reads of a record's line, from its end to its beginning. -/
theorem jsonLike_reads {message : String} (h : message ≠ "") (level : Level) (rest : List Char) :
    ∃ w later, jsonLikeNode.Reads w ∧ Json.quote "level" ++ ':' :: (Json.quote level.name ++
      ',' :: (Json.quote "message" ++ ':' :: (Json.quote message ++ rest))) = w ++ later := by
  obtain ⟨body, later, hbody, hne, hunquoted⟩ := exists_unquoted h rest
  obtain ⟨hname, hword⟩ := name_word level
  have hcomma : ∀ c ∈ [','], (CharSet.complement (.just '\n')).has c = true :=
    List.forall_mem_singleton.mpr (CharSet.has_complement_just_iff.mpr (by decide))
  have hend : (Node.ofList []).Reads [] := Node.reads_ofList_nil_iff.mpr rfl
  have hmessageText : (Node.loop 1 none true (.chars (.complement (.just '"')))).Reads body :=
    Node.reads_loop_chars hunquoted (List.length_pos_iff.mpr hne) (by simp)
  have hmessage := ((hmessageText.grouped 2).ofList_cons (hend.ofList_literal "\"")).ofList_literal "\""
  have hkey := (reads_anySpaces.ofList_cons hmessage).ofList_literal "\"message\":"
  have hskipped : (Node.loop 0 none false (.chars (.complement (.just '\n')))).Reads [','] :=
    Node.reads_loop_chars hcomma (Nat.zero_le _) (by simp)
  have hbetween := (hskipped.ofList_cons hkey).ofList_literal "\""
  have hnameText : (Node.loop 1 none true (.chars (.ranges Text.wordRanges))).Reads level.name.toList :=
    Node.reads_loop_chars hword (List.length_pos_iff.mpr hname) (by simp)
  have hlevel := ((hnameText.grouped 1).ofList_cons hbetween).ofList_literal "\""
  refine ⟨_, later, (reads_anySpaces.ofList_cons hlevel).ofList_literal "\"level\":", ?_⟩
  have hlevelKey : Json.quote "level" = "\"level\"".toList := rfl
  have hmessageKey : Json.quote "message" = "\"message\"".toList := rfl
  rw [quote_name, Json.quote_append message, hbody, hlevelKey, hmessageKey]
  simp

theorem jsonLike_find? {r : Record} (h : r.message ≠ "") :
    (jsonLike.pattern.find? r.toJson.compactChars).isSome := by
  obtain ⟨w, later, hreads, htext⟩ := jsonLike_reads h r.level _
  rw [Record.compactChars_toJson, htext, Pattern.find?, jsonLike_nests, jsonLike_node]
  simpa using Node.search_isSome (hreads.leads rfl later) ['\x7b'] 0 none

end Logbook.Rule.Leveled
