import LotSearch.Proofs.Reply.Object
import LotSearch.Proofs.Text.Occurrence
import LotSearch.Proofs.Text.Trim

/-!
# Objects in a fence

The first fence that is marked as JSON is the first place where a reply is looked for.  When an
object with a statement stands in it, neither other fences nor other objects behind it are looked
at.  Before it there may be backticks, even right before it, but no fence, and the object itself
must not hold one.
-/

namespace LotSearch.Reply

open Json

/-- Whether a text is an object with the members, perhaps with spaces around it. -/
def IsDocumentOf (members : List (Text × Content)) (t : Text) : Prop :=
  ∃ gap object gap', Spaces gap ∧ Spaces gap' ∧ IsObjectOf members object ∧
    t = gap ++ (object ++ gap')

theorem isBlank_of_isSpace {c : Char} (h : isSpace c = true) : isBlank c = true := by
  have hall : ∀ d ∈ [' ', '\n', '\t', '\r'], isBlank d = true := forall_mem_of_all (by decide)
  exact hall c (mem_of_isSpace h)

/-- Trimming leaves nothing but the object. -/
theorem trim_document {members : List (Text × Content)} {gap object gap' : Text}
    (hgap : Spaces gap) (hgap' : Spaces gap') (hobject : IsObjectOf members object) :
    Text.trim ('\n' :: (gap ++ (object ++ gap')) ++ ['\n']) = object := by
  obtain ⟨u, -, rfl⟩ := hobject
  have hbefore : ∀ c ∈ '\n' :: gap, isBlank c = true :=
    List.forall_mem_cons.2 ⟨by decide, fun c hc => isBlank_of_isSpace (hgap c hc)⟩
  have hbehind : ∀ c ∈ gap' ++ ['\n'], isBlank c = true :=
    List.forall_mem_append.2 ⟨fun c hc => isBlank_of_isSpace (hgap' c hc),
      List.forall_mem_singleton.2 (by decide)⟩
  have htrim := Text.trim_append (t := '\x7b' :: (u ++ ['\x7d'])) hbefore hbehind (by simp)
    (fun c hc => by
      obtain rfl : '\x7b' = c := by simpa using hc
      decide)
    (fun c hc => by
      obtain rfl : '\x7d' = c := by simpa [List.getLast?_cons] using hc
      decide)
  simpa using htrim

/-- The first fence marked as JSON holds what stands between it and the next fence. -/
theorem jsonFence?_fenced {before json : Text} (hbefore : ¬ fence <:+: before)
    (hjson : ¬ fence <:+: json) (after : Text) :
    jsonFence? (before ++ "```json\n".toList ++ json ++ "\n```".toList ++ after) =
      some (Text.trim ('\n' :: json ++ ['\n'])) := by
  have hsplit : before ++ "```json\n".toList ++ json ++ "\n```".toList ++ after =
      before ++ ((fence ++ "json".toList) ++ ('\n' :: json ++ '\n' :: (fence ++ after))) := by
    have hopening : "```json\n".toList = fence ++ "json".toList ++ ['\n'] := by decide
    have hclosing : "\n```".toList = '\n' :: fence := by decide
    rw [hopening, hclosing]
    simp only [List.append_assoc, List.cons_append, List.nil_append]
  have hmarked : ¬ fence ++ "json".toList <:+: before := fun h =>
    hbefore ((List.prefix_append fence "json".toList).isInfix.trans h)
  have hinside : ¬ fence <:+: '\n' :: json :=
    Text.not_occurs_append_cons (u := []) (by decide) (by decide) hjson
  have hopen := Text.breakAt?_append (p := fence ++ "json".toList) (by decide) hmarked
    ('\n' :: json ++ '\n' :: (fence ++ after))
  have hnext : Text.breakAt? fence (fence ++ after) = some ([], after) :=
    Text.breakAt?_of_after? (Text.after?_eq_some_iff.2 rfl)
  have hclose := Text.breakAt?_append_cons (c := '\n') (by decide) (by decide) hinside
    (fence ++ after)
  rw [hnext, Option.map_some] at hclose
  have hcontents : upToFence? ('\n' :: json ++ '\n' :: (fence ++ after)) =
      some (Text.trim ('\n' :: json ++ ['\n'])) := by
    rw [upToFence?, hclose]
    rfl
  rw [jsonFence?, hsplit, hopen, Option.bind_some]
  exact hcontents

/-- What the first fence marked as JSON holds is read first. -/
theorem read?_of_jsonFence {t object : Text} {reply : Reply} (hfence : jsonFence? t = some object)
    (hreply : ofObject? object = some reply) : read? t = some reply := by
  have hnonempty : object ≠ [] := by
    rintro rfl
    cases hreply
  have hfound : (candidates t).findSome? ofObject? = some reply := by
    simp [candidates, hfence, Option.filter_some, hnonempty, hreply]
  rw [read?, hfound]

/-- A statement is read from an object in the first fence marked as JSON, whatever stands behind
that fence. -/
theorem read_fenced_document {sql : Text} {explanation : Option Text}
    {members : List (Text × Content)} {before json : Text} (hsql : Text.trim sql ≠ [])
    (hmembers : BringsReply sql explanation members) (hjson : IsDocumentOf members json)
    (hbefore : ¬ fence <:+: before) (hfence : ¬ fence <:+: json) (after : Text) :
    read? (before ++ "```json\n".toList ++ json ++ "\n```".toList ++ after) =
      some ⟨Text.trim sql, shownExplanation explanation⟩ := by
  obtain ⟨gap, object, gap', hgap, hgap', hobject, rfl⟩ := hjson
  have hfound := jsonFence?_fenced hbefore hfence after
  rw [trim_document hgap hgap' hobject] at hfound
  exact read?_of_jsonFence hfound
    ((ofObject?_isObjectOf hmembers hobject).trans (ofFields_some hsql explanation))

/-- An object with a member that is not asked for and an explanation that is not given. -/
def ratedJson : Text :=
  "\x7b\"score\": [0.9, true], \"sql\": \" SELECT bbl FROM properties\", ".toList ++
    "\"explanation\": null\x7d\n".toList

theorem isDocumentOf_ratedJson :
    IsDocumentOf [("score".toList, .other),
      ("sql".toList, .text " SELECT bbl FROM properties".toList),
      ("explanation".toList, .null)] ratedJson := by
  have hnone : Spaces [] := fun _ hc => absurd hc List.not_mem_nil
  have hspace : Spaces [' '] := forall_mem_of_all (by decide)
  have hline : Spaces ['\n'] := forall_mem_of_all (by decide)
  have hdigit : ∀ c, isAsciiDigit c = true → Text.IsDigits [c] := fun c hc =>
    ⟨by simp, List.forall_mem_singleton.2 hc⟩
  have hnumber : IsNumber ['0', '.', '9'] :=
    @IsNumber.mk [] ['0'] ['.', '9'] [] (.inl rfl) (hdigit '0' (by decide)) (fun _ => rfl)
      (.inr ⟨['9'], rfl, hdigit '9' (by decide)⟩) (.inl rfl)
  have hitems : IsJson .items "0.9, true".toList :=
    .moreItems (.item hnone (.number hnumber) hnone)
      (.oneItem (.item hspace (@IsJson.word "true".toList (by simp)) hnone))
  have hscore : WritesMember ("score".toList, .other) "\"score\": [0.9, true]".toList :=
    .mk (writes_escape "score".toList) (.other (.list hitems)) hnone hnone hspace hnone
  have hsql : WritesMember ("sql".toList, .text " SELECT bbl FROM properties".toList)
      " \"sql\": \" SELECT bbl FROM properties\"".toList :=
    .mk (writes_escape "sql".toList) (.text (writes_escape _)) hspace hnone hspace hnone
  have hexplanation : WritesMember ("explanation".toList, .null)
      " \"explanation\": null".toList :=
    .mk (writes_escape "explanation".toList) .null hspace hnone hspace hnone
  refine ⟨[], _, ['\n'], hnone, hline, ⟨_, .more hscore (.more hsql (.one hexplanation)), rfl⟩, ?_⟩
  decide

/-- Neither the backticks right before the fence nor what stands behind it matter. -/
theorem read_fenced_rated :
    read? ("Here: ``".toList ++ "```json\n".toList ++ ratedJson ++ "\n```".toList ++
        "\n```json\n\x7b\"sql\": \"SELECT 1\"\x7d\n```".toList) =
      some ⟨"SELECT bbl FROM properties".toList, defaultExplanation⟩ := by
  have hmembers : BringsReply " SELECT bbl FROM properties".toList none
      [("score".toList, .other), ("sql".toList, .text " SELECT bbl FROM properties".toList),
        ("explanation".toList, .null)] :=
    ⟨_, [("score".toList, .other)], .null, by decide, by decide⟩
  exact read_fenced_document (by decide) hmembers isDocumentOf_ratedJson (by decide)
    (by decide +kernel) _

end LotSearch.Reply
