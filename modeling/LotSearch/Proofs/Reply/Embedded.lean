import LotSearch.Proofs.Reply.Object
import LotSearch.Proofs.Text.Occurrence
import LotSearch.Proofs.Text.Trim

/-!
# Objects in the middle of a reply

An object with a statement is found wherever it stands in a reply, when no brace and no fence stands
before it and no fence behind it.  Its own values may hold both.  A fence can then only open inside
a value, so what it encloses begins inside quotes: the closing quote of the value is taken for an
opening one there, and what comes behind it is no name, no value and no end.
-/

namespace LotSearch

namespace Reply

open Json

/-! ## What a fence inside a value encloses -/

/-- Read as the inside of quotes, the text holds no fence or ends where no record goes on. -/
def LeadsNowhere (t : Text) : Prop :=
  ¬ fence <:+: t ∨
    ∃ inside c rest, splitQuoted t = some (inside, c :: rest) ∧ ¬ GoesOn c

/-- Behind a fence inside a value no reply is found up to the next fence. -/
theorem ofObject?_eq_none_of_upToFence? {value y tail letters t u : Text} (hy : Writes value y)
    (htail : LeadsNowhere tail) (ht : y ++ '"' :: tail = letters ++ t)
    (hletters : ∀ c ∈ letters, c.isAlpha = true) (hu : upToFence? t = some u) :
    ofObject? u = none := by
  cases hreply : ofObject? u with
  | none => rfl
  | some reply =>
      obtain ⟨gap, c, u', rfl, hgap, hc, gap', w, inside, d, rest, rfl, hgap', hsplit, hd⟩ :=
        beginsQuoted_of_ofObject? hreply
      obtain ⟨⟨p, r⟩, hbreak, htrim⟩ := Option.map_eq_some_iff.1 hu
      obtain ⟨a, b, hp, ha⟩ := Text.exists_append_trim p
      have hfence : t = p ++ fence ++ r := Text.append_of_breakAt? hbreak
      -- all that stands before the first quote behind the fence
      have hlead : ∀ x ∈ letters ++ a ++ gap ++ c :: gap', x ≠ '"' ∧ x ≠ '\\' := by
        intro x hx
        simp only [List.mem_append, List.mem_cons] at hx
        rcases hx with ((hx | hx) | hx) | rfl | hx
        · exact ⟨ne_of_class (hletters x hx) (by decide), ne_of_class (hletters x hx) (by decide)⟩
        · exact ⟨ne_of_class (ha x hx) (by decide), ne_of_class (ha x hx) (by decide)⟩
        · exact plain_of_spaces hgap x hx
        · rcases hc with rfl | rfl <;> decide
        · exact plain_of_spaces hgap' x hx
      have htext : y ++ '"' :: tail =
          (letters ++ a ++ gap ++ c :: gap') ++ '"' :: (w ++ (b ++ fence ++ r)) := by
        have hinside : Text.trim p = gap ++ c :: (gap' ++ '"' :: w) := htrim
        rw [ht, hfence, hp, hinside]
        simp
      have hinside := Inside.append_of_plain hlead .nil
      rw [List.append_nil] at hinside
      have hvalue := hy.inside.splitQuoted_append tail
      rw [htext, hinside.splitQuoted_append] at hvalue
      obtain ⟨-, rfl⟩ := Prod.mk.inj (Option.some.inj hvalue)
      rcases htail with hno | ⟨inside', c', rest', hsplit', hc'⟩
      · exact absurd ⟨w ++ b, r, by simp⟩ hno
      · rw [splitQuoted_append hsplit] at hsplit'
        obtain ⟨-, hrest⟩ := Prod.mk.inj (Option.some.inj hsplit')
        obtain ⟨rfl, -⟩ := List.cons.inj hrest
        exact absurd hd hc'

/-! ## Where fences are -/

/-- A name without backticks behind which, as behind a quoted text, no record goes on. -/
def IsFieldName (name : Text) : Prop :=
  '\x60' ∉ name ∧ ∃ c t, name = c :: t ∧ ¬ GoesOn c

theorem not_goesOn_of_head? {name n : Text} (hname : IsFieldName name) (h : Writes name n) :
    ∃ c t, n = c :: t ∧ ¬ GoesOn c := by
  obtain ⟨-, c, t, rfl, hc⟩ := hname
  rcases h.head?_eq with hhead | hhead
  · obtain ⟨t', rfl⟩ := List.head?_eq_some_iff.1 hhead
    exact ⟨c, t', rfl, hc⟩
  · obtain ⟨t', rfl⟩ := List.head?_eq_some_iff.1 hhead
    exact ⟨_, t', rfl, by decide⟩

theorem not_fence_of_notMem {t : Text} (h : '\x60' ∉ t) : ¬ fence <:+: t := by
  intro hfence
  exact h (hfence.subset (by decide))

theorem backtick_notMem_of_spaces {gap : Text} (h : Spaces gap) : '\x60' ∉ gap :=
  fun hmem => ne_of_class (h _ hmem) (by decide) rfl

/-- Behind a value and a comma the quotes close in front of a name. -/
theorem leadsNowhere_of_comma {gap v : Text} (hgap : Spaces gap) {fields : List (Text × Text)}
    (h : WritesFields fields v) (hnames : ∀ f ∈ fields, IsFieldName f.1) (after : Text) :
    LeadsNowhere (gap ++ ',' :: (v ++ after)) := by
  obtain ⟨f, hmem, gap', n, r, hgap', hn, rfl⟩ := h.exists_quote
  obtain ⟨c, t, rfl, hc⟩ := not_goesOn_of_head? (hnames f hmem) hn
  have hplain : ∀ d ∈ gap ++ ',' :: gap', d ≠ '"' ∧ d ≠ '\\' := by
    refine List.forall_mem_append.2 ⟨plain_of_spaces hgap, List.forall_mem_cons.2 ⟨?_, ?_⟩⟩
    · decide
    · exact plain_of_spaces hgap'
  refine .inr ⟨gap ++ ',' :: gap', c, t ++ '"' :: (r ++ after), ?_, hc⟩
  have hinside := Inside.append_of_plain hplain .nil
  exact splitQuoted_eq_some_iff.2 ⟨by simpa using hinside, by simp⟩

/-- A fence in a field or behind it stands inside its value or behind the quotes of the value. -/
theorem exists_writes_or_occurs {f : Text × Text} {u : Text} (h : WritesField f u)
    (hname : '\x60' ∉ f.1) {tail before rest : Text} (ht : u ++ tail = before ++ fence ++ rest) :
    ∃ gap, Spaces gap ∧ ((∃ value y, Writes value y ∧ rest = y ++ '"' :: (gap ++ tail)) ∨
      ∃ x, gap ++ tail = x ++ fence ++ rest) := by
  have hquote : '"' ∉ fence := by decide
  have hbare : IsBare '\x60' := by decide
  cases h with
  | @mk name value n v gap₁ gap₂ gap₃ gap₄ hn hv hgap₁ hgap₂ hgap₃ hgap₄ =>
      have hlead : ¬ fence <:+: gap₁ ++ '"' :: (n ++ '"' :: (gap₂ ++ ':' :: gap₃)) := by
        apply not_fence_of_notMem
        have hn_plain : '\x60' ∉ n := fun hmem => hname (hn.mem_of_mem hbare hmem)
        simp [backtick_notMem_of_spaces hgap₁, backtick_notMem_of_spaces hgap₂,
          backtick_notMem_of_spaces hgap₃, hn_plain]
      have htext : (gap₁ ++ '"' :: (n ++ '"' :: (gap₂ ++ ':' :: gap₃))) ++
          '"' :: (v ++ '"' :: (gap₄ ++ tail)) = before ++ fence ++ rest := by
        rw [← ht]
        simp
      obtain ⟨x, hx⟩ := Text.occurs_behind hquote hlead htext
      refine ⟨gap₄, hgap₄, (Text.occurs_of_append_cons hquote hx).imp_left ?_⟩
      rintro ⟨y, rfl, rfl⟩
      have hbehind : x ++ fence ++ y = (x ++ ['\x60', '\x60']) ++ '\x60' :: y := by
        rw [List.append_assoc, List.append_assoc]
        rfl
      obtain ⟨value', hy⟩ := (hbehind ▸ hv).exists_of_append hbare
      exact ⟨value', y, hy, rfl⟩

/-- A fence behind the brace that opens an object stands inside a value of it, when none stands
behind the object. -/
theorem exists_writes_of_fence {fields : List (Text × Text)} {u : Text}
    (h : WritesFields fields u) (hnames : ∀ f ∈ fields, IsFieldName f.1) {after before rest : Text}
    (hafter : ¬ fence <:+: after) (ht : u ++ '\x7d' :: after = before ++ fence ++ rest) :
    ∃ value y tail, Writes value y ∧ rest = y ++ '"' :: tail ∧ LeadsNowhere tail := by
  induction h generalizing before with
  | @one f u hfield =>
      obtain ⟨gap, hgap, ⟨value, y, hy, rfl⟩ | ⟨x, hx⟩⟩ :=
        exists_writes_or_occurs hfield (hnames f (by simp)).1 ht
      all_goals
        have hno : ¬ fence <:+: gap ++ '\x7d' :: after :=
          Text.not_occurs_append_cons (by decide)
            (not_fence_of_notMem (backtick_notMem_of_spaces hgap)) hafter
      · exact ⟨value, y, _, hy, rfl, .inl hno⟩
      · exact absurd ⟨x, rest, hx.symm⟩ hno
  | @more f fields u v hfield hfields ih =>
      obtain ⟨hname, hnames⟩ := List.forall_mem_cons.1 hnames
      rw [List.append_assoc, List.cons_append] at ht
      obtain ⟨gap, hgap, ⟨value, y, hy, rfl⟩ | ⟨x, hx⟩⟩ :=
        exists_writes_or_occurs hfield hname.1 ht
      · exact ⟨value, y, _, hy, rfl, leadsNowhere_of_comma hgap hfields hnames _⟩
      · obtain ⟨x, hx⟩ := Text.occurs_behind (by decide)
          (not_fence_of_notMem (backtick_notMem_of_spaces hgap)) hx
        exact ih hnames hx

/-! ## Replies read -/

/-- No fence leads to a reply, when none stands before or behind the object. -/
theorem ofObject?_eq_none_of_fence {fields : List (Text × Text)} {before json after : Text}
    (hnames : ∀ f ∈ fields, IsFieldName f.1) (hjson : WritesObject fields json)
    (hbefore : ¬ fence <:+: before) (hafter : ¬ fence <:+: after) (a letters : Text) {t u : Text}
    (hletters : ∀ c ∈ letters, c.isAlpha = true)
    (ht : before ++ json ++ after = a ++ fence ++ (letters ++ t)) (hu : upToFence? t = some u) :
    ofObject? u = none := by
  obtain ⟨w, hfields, rfl⟩ := hjson
  have htext : before ++ '\x7b' :: (w ++ '\x7d' :: after) = a ++ fence ++ (letters ++ t) := by
    rw [← ht]
    simp
  obtain ⟨x, hx⟩ := Text.occurs_behind (by decide) hbefore htext
  obtain ⟨value, y, tail, hy, hrest, htail⟩ := exists_writes_of_fence hfields hnames hafter hx
  exact ofObject?_eq_none_of_upToFence? hy htail hrest.symm hletters hu

theorem read?_eq_of_candidates {t json : Text} {reply : Reply}
    (hjsonFence : ∀ u, jsonFence? t = some u → ofObject? u = none)
    (hbareFence : ∀ u, bareFence? t = some u → ofObject? u = none)
    (hobject : firstObject? t = some json) (hreply : ofObject? json = some reply) :
    read? t = some reply := by
  have hskip : ∀ candidate : Option Text, (∀ u, candidate = some u → ofObject? u = none) →
      (candidate.filter fun u => !u.isEmpty).bind ofObject? = none := by
    intro candidate hnone
    refine Option.bind_eq_none_iff.2 fun u hu => hnone u ?_
    exact (Option.filter_eq_some_iff.1 hu).1
  have hnonempty : json ≠ [] := by
    rintro rfl
    cases hreply
  have hfound : (candidates t).findSome? ofObject? = some reply := by
    rw [candidates, ← List.head?_filterMap, List.filterMap_filterMap, List.head?_filterMap]
    simp [hskip _ hjsonFence, hskip _ hbareFence, hobject, Option.filter_some, hnonempty, hreply]
  simp [read?, hfound]

theorem isFieldName_of_perm {sql : Text} {explanation : Option Text} {fields : List (Text × Text)}
    (hfields : fields.Perm (objectFields sql explanation)) : ∀ f ∈ fields, IsFieldName f.1 := by
  intro f hf
  have hname : f.1 ∈ ["sql".toList, "explanation".toList] := by
    have hmem := hfields.subset hf
    cases explanation with
    | none => simp [List.mem_singleton.1 hmem]
    | some e => rcases List.mem_pair.1 hmem with rfl | rfl <;> simp
  have hall : ∀ name ∈ ["sql".toList, "explanation".toList], IsFieldName name := by
    simp [IsFieldName, GoesOn, isSpace]
  exact hall f.1 hname

/-- A statement is read from each way to write its object, whatever its texts hold, when neither a
brace nor a fence stands before the object and no fence behind it. -/
theorem read_embedded_object {sql : Text} {explanation : Option Text} {fields : List (Text × Text)}
    {before json after : Text} (hsql : Text.trim sql ≠ [])
    (hfields : fields.Perm (objectFields sql explanation))
    (hjson : WritesObject fields json) (hbrace : '\x7b' ∉ before) (hbefore : ¬ fence <:+: before)
    (hafter : ¬ fence <:+: after) :
    read? (before ++ json ++ after) = some ⟨Text.trim sql, shownExplanation explanation⟩ := by
  have hnames := isFieldName_of_perm hfields
  refine read?_eq_of_candidates (fun u hu => ?_) (fun u hu => ?_)
    (firstObject?_embedded hjson hbrace)
    ((ofObject?_writesObject hfields hjson).trans (ofFields_some hsql explanation))
  · obtain ⟨⟨a, t⟩, ht, hu⟩ := Option.bind_eq_some_iff.1 hu
    refine ofObject?_eq_none_of_fence hnames hjson hbefore hafter a "json".toList
      (forall_mem_of_all (by decide)) ?_ hu
    rw [Text.append_of_breakAt? ht]
    simp
  · obtain ⟨⟨a, t⟩, ht, hu⟩ := Option.bind_eq_some_iff.1 hu
    refine ofObject?_eq_none_of_fence hnames hjson hbefore hafter a (t.takeWhile Char.isAlpha)
      (fun c hc => List.mem_takeWhile_imp hc) ?_ hu
    rw [List.takeWhile_append_dropWhile]
    exact Text.append_of_breakAt? ht

def fencedFields : List (Text × Text) :=
  [("explanation".toList, "```json\n\x7b".toList),
    ("sql".toList, " SELECT bbl FROM properties WHERE address = '\x7b```\x7d\"\\' ".toList)]

def fencedJson : Text :=
  "\x7b\"explanation\":\"```json\\n\x7b\",".toList ++
    "\"sql\":\" SELECT bbl FROM properties WHERE address = '\x7b```\x7d\\\"\\\\' \"\x7d".toList

theorem read_embedded_fences :
    WritesObject fencedFields fencedJson ∧
      read? ("Here you go: ".toList ++ fencedJson ++ "\nHope that helps.".toList) =
        some ⟨"SELECT bbl FROM properties WHERE address = '\x7b```\x7d\"\\'".toList,
          "```json\n\x7b".toList⟩ := by
  have hjson : WritesObject fencedFields fencedJson := by
    have hwrite : write (.object (fencedFields.map fun f => (f.1, .text f.2))) =
        fencedJson := by cbv
    exact hwrite ▸ writesObject_write (by simp [fencedFields])
  have hplain : ∀ t ∈ ["Here you go: ".toList, "\nHope that helps.".toList],
      '\x7b' ∉ t ∧ ¬ fence <:+: t := by decide
  refine ⟨hjson, ?_⟩
  exact @read_embedded_object _ (some _) _ _ _ _ (by decide) (List.Perm.swap _ _ _) hjson
    (hplain _ (by simp)).1 (hplain _ (by simp)).2 (hplain _ (by simp)).2

end Reply

end LotSearch
