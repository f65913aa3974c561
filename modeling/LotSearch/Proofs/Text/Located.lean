import LotSearch.Proofs.Text.Walk

/-!
# Where a pattern fits

What a pattern covers can depend on what stands around it, and a group remembers where it stands.
A fit is therefore described by the text before it, the text it covers and the text behind it,
together with the parts that its groups cover.  A search finds only such fits, and a pattern that
has one at a place is found there.
-/

namespace LotSearch

/-- Whether a place is the one behind a text. -/
structure Place.Behind (before : Text) (s : Place) : Prop where
  position : s.position = before.length
  previous : s.previous = before.getLast?

theorem Place.Behind.advance {before : Text} {s : Place} (h : s.Behind before) (c : Char)
    (rest : Text) : (s.advance c rest).Behind (before ++ [c]) where
  position := by simp [Place.advance, h.position]
  previous := by simp [Place.advance]

/-- The span of a part of a text, between what stands before the part and behind it. -/
def Span.between (before u behind : Text) : Span := ⟨before.length, u ++ behind, u.length⟩

namespace Span

variable {before u behind : Text}

@[simp] theorem start_between : (between before u behind).start = before.length := rfl

@[simp] theorem stop_between : (between before u behind).stop = before.length + u.length := rfl

@[simp] theorem text_between : (between before u behind).text = u := by
  simp [between, text]

end Span

namespace Pattern

/-- Whether a pattern covers `u` between the texts before and behind it.  The parts that its
groups cover are listed with the latest first. -/
def Covers : Pattern → Text → Text → Text → List (Nat × Span) → Prop
  | empty, _, u, _, found => u = [] ∧ found = []
  | one accepts, _, u, _, found => (∃ c, u = [c] ∧ accepts c = true) ∧ found = []
  | seq p q, before, u, behind, found => ∃ v w earlier later, u = v ++ w ∧
      found = later ++ earlier ∧ p.Covers before v (w ++ behind) earlier ∧
        q.Covers (before ++ v) w behind later
  | either p q, before, u, behind, found =>
      p.Covers before u behind found ∨ q.Covers before u behind found
  | many accepts, _, u, _, found => (∀ c ∈ u, accepts c = true) ∧ found = []
  | group number body, before, u, behind, found => ∃ inner, body.Covers before u behind inner ∧
      found = (number, .between before u behind) :: inner
  | edge, before, u, behind, found =>
      (u = [] ∧ Text.boundary before.getLast? behind.head? = true) ∧ found = []
  | outside accepts, before, u, behind, found =>
      (u = [] ∧ (before.getLast?.any accepts && behind.head?.any accepts) = false) ∧ found = []

/-- Whether a pattern looks only at what it covers, and remembers no part of it. -/
def bare : Pattern → Bool
  | seq p q | either p q => p.bare && q.bare
  | group _ _ | edge | outside _ => false
  | _ => true

variable {p q : Pattern} {before u behind t : Text} {found : List (Nat × Span)} {s s' : Place}
  {f : Fit}

namespace Covers

theorem spells (h : p.Covers before u behind found) : p.Spells u := by
  induction p generalizing before u behind found with
  | empty => exact h.1
  | one accepts => exact h.1
  | seq p q ihp ihq =>
      obtain ⟨v, w, earlier, later, rfl, -, hp, hq⟩ := h
      exact ⟨v, w, rfl, ihp hp, ihq hq⟩
  | either p q ihp ihq => exact h.imp ihp ihq
  | many accepts => exact h.1
  | group number body ih =>
      obtain ⟨inner, hbody, -⟩ := h
      exact ih hbody
  | edge => exact h.1.1
  | outside accepts => exact h.1.1

/-- A group covers a part of what the pattern covers, and one that the group can capture. -/
theorem captures {n : Nat} {span : Span} (h : p.Covers before u behind found)
    (hmem : (n, span) ∈ found) : p.Captures n span.text ∧ span.text <:+: u := by
  induction p generalizing before u behind found with
  | seq p q ihp ihq =>
      obtain ⟨v, w, earlier, later, rfl, rfl, hp, hq⟩ := h
      rcases List.mem_append.1 hmem with hlater | hearlier
      · obtain ⟨hcaptures, hpart⟩ := ihq hq hlater
        exact ⟨.inr hcaptures, hpart.trans (List.suffix_append v w).isInfix⟩
      · obtain ⟨hcaptures, hpart⟩ := ihp hp hearlier
        exact ⟨.inl hcaptures, hpart.trans (List.prefix_append v w).isInfix⟩
  | either p q ihp ihq =>
      rcases h with hp | hq
      · exact (ihp hp hmem).imp_left .inl
      · exact (ihq hq hmem).imp_left .inr
  | group number body ih =>
      obtain ⟨inner, hbody, rfl⟩ := h
      rcases List.mem_cons.1 hmem with heq | hinner
      · cases heq
        rw [Span.text_between]
        exact ⟨.inl ⟨rfl, hbody.spells⟩, List.infix_rfl⟩
      · exact (ih hbody hinner).imp_left .inr
  | _ =>
      obtain ⟨-, rfl⟩ := h
      cases hmem

/-- A pattern without groups of a number remembers nothing under the number. -/
theorem lookup_eq_none {n : Nat} (h : p.Covers before u behind found)
    (hp : ∀ t, ¬ p.Captures n t) : found.lookup n = none := by
  rw [List.lookup_eq_none_iff]
  rintro ⟨m, span⟩ hmem
  rw [bne_iff_ne]
  rintro rfl
  exact hp _ (h.captures hmem).1

end Covers

theorem covers_iff_of_bare (hp : p.bare = true) :
    p.Covers before u behind found ↔ p.Spells u ∧ found = [] := by
  induction p generalizing before u behind found with
  | seq p q ihp ihq =>
      rw [bare, Bool.and_eq_true] at hp
      constructor
      · rintro ⟨v, w, earlier, later, rfl, rfl, hfirst, hsecond⟩
        obtain ⟨hv, rfl⟩ := (ihp hp.1).1 hfirst
        obtain ⟨hw, rfl⟩ := (ihq hp.2).1 hsecond
        exact ⟨⟨v, w, rfl, hv, hw⟩, rfl⟩
      · rintro ⟨⟨v, w, rfl, hv, hw⟩, rfl⟩
        exact ⟨v, w, [], [], rfl, rfl, (ihp hp.1).2 ⟨hv, rfl⟩, (ihq hp.2).2 ⟨hw, rfl⟩⟩
  | either p q ihp ihq =>
      rw [bare, Bool.and_eq_true] at hp
      simp only [Covers, Spells, ihp hp.1, ihq hp.2, or_and_right]
  | group number body => cases hp
  | edge => cases hp
  | outside accepts => cases hp
  | _ => exact Iff.rfl

theorem Covers.append_edge (h : p.Covers before u behind found) (hu : u ≠ [])
    (hboundary : Text.boundary u.getLast? behind.head? = true) :
    (p ++ edge).Covers before u behind found := by
  refine ⟨u, [], found, [], (List.append_nil u).symm, rfl, h, ⟨rfl, ?_⟩, rfl⟩
  rwa [List.getLast?_append_of_ne_nil before hu]

theorem bare_literal (word : Text) : (literal word).bare = true := by
  fun_induction literal word with
  | case1 => rfl
  | case2 => rfl
  | case3 c rest _ ih => simpa [bare] using ih

theorem covers_word {word : Text} (hword : word ≠ [])
    (hboundary : Text.boundary word.getLast? behind.head? = true) :
    (literal word ++ edge).Covers before word behind [] := by
  apply Covers.append_edge ?_ hword hboundary
  exact (covers_iff_of_bare (bare_literal word)).2 ⟨spells_literal.2 rfl, rfl⟩

/-- What a walk passes is covered, and the groups on the way are remembered. -/
theorem Walk.covers (h : Walk p s s') (hs : s.Behind before) :
    ∃ u found, s.rest = u ++ s'.rest ∧ s'.Behind (before ++ u) ∧
      s'.groups = found ++ s.groups ∧ p.Covers before u s'.rest found := by
  induction h generalizing before with
  | empty => exact ⟨[], [], rfl, by simpa using hs, rfl, rfl, rfl⟩
  | one hrest hc => exact ⟨_, [], hrest, hs.advance _ _, rfl, ⟨_, rfl, hc⟩, rfl⟩
  | seq _ _ ihp ihq =>
      obtain ⟨v, earlier, hv, hmiddle, hearlier, hp⟩ := ihp hs
      obtain ⟨w, later, hw, hlast, hlater, hq⟩ := ihq hmiddle
      refine ⟨v ++ w, later ++ earlier, ?_, ?_, ?_, v, w, earlier, later, rfl, rfl, ?_, hq⟩
      · rw [hv, hw, List.append_assoc]
      · rwa [← List.append_assoc]
      · rw [hlater, hearlier, List.append_assoc]
      · rwa [← hw]
  | first _ ih =>
      obtain ⟨u, found, hu, hlast, hfound, hp⟩ := ih hs
      exact ⟨u, found, hu, hlast, hfound, .inl hp⟩
  | second _ ih =>
      obtain ⟨u, found, hu, hlast, hfound, hq⟩ := ih hs
      exact ⟨u, found, hu, hlast, hfound, .inr hq⟩
  | stay => exact ⟨[], [], rfl, by simpa using hs, rfl, by simp, rfl⟩
  | @more accepts s s' c rest hrest hc _ ih =>
      obtain ⟨u, found, hu, hlast, hfound, hall, rfl⟩ := ih (hs.advance c rest)
      refine ⟨c :: u, [], ?_, ?_, hfound, ?_, rfl⟩
      · rw [hrest, List.cons_append, ← hu]
        rfl
      · simpa using hlast
      · exact List.forall_mem_cons.2 ⟨hc, hall⟩
  | group _ ih =>
      obtain ⟨u, found, hu, hlast, hfound, hbody⟩ := ih hs
      refine ⟨u, _, hu, ⟨hlast.position, hlast.previous⟩, ?_, found, hbody, rfl⟩
      simp [Span.between, hfound, hu, hs.position, hlast.position]
  | edge h => exact ⟨[], [], rfl, by simpa using hs, rfl, ⟨rfl, by rwa [← hs.previous]⟩, rfl⟩
  | outside h => exact ⟨[], [], rfl, by simpa using hs, rfl, ⟨rfl, by rwa [← hs.previous]⟩, rfl⟩

/-! ## Searches -/

theorem covers_of_fit (h : p.fit some s = some s') (hs : s.Behind before)
    (hgroups : s.groups = []) : ∃ u, s.rest = u ++ s'.rest ∧ s'.Behind (before ++ u) ∧
      p.Covers before u s'.rest s'.groups := by
  obtain ⟨_, hwalk, hfinish⟩ := walk_of_fit h
  cases hfinish
  obtain ⟨u, found, hu, hlast, hfound, hcovers⟩ := hwalk.covers hs
  rw [hgroups, List.append_nil] at hfound
  exact ⟨u, hu, hlast, hfound ▸ hcovers⟩

theorem fit_of_findFrom {previous : Option Char} {position : Nat}
    (h : p.findFrom previous position t = some f)
    (hs : Place.Behind before ⟨previous, position, t, []⟩) :
    ∃ between s, t = between ++ s.rest ∧ s.Behind (before ++ between) ∧ s.groups = [] ∧
      p.fit some s = some f.finish := by
  have hat : ∀ {previous position t before}, p.fitAt previous position t = some f →
      Place.Behind before ⟨previous, position, t, []⟩ → ∃ between s, t = between ++ s.rest ∧
        s.Behind (before ++ between) ∧ s.groups = [] ∧ p.fit some s = some f.finish := by
    intro previous position t before h hs
    obtain ⟨finish, hfit, rfl⟩ := Option.map_eq_some_iff.1 h
    exact ⟨[], ⟨previous, position, t, []⟩, rfl, by simpa using hs, rfl, hfit⟩
  induction t generalizing previous position before with
  | nil => exact hat h hs
  | cons c t ih =>
      simp only [findFrom] at h
      split at h
      · rename_i found hfound
        cases h
        exact hat hfound hs
      · obtain ⟨between, s, ht, hs', hfit⟩ := ih h (hs.advance c t)
        refine ⟨c :: between, s, ?_, ?_, hfit⟩
        · rw [List.cons_append, ← ht]
        · simpa using hs'

theorem fit_of_mem_findAllFrom {fuel : Nat} {previous : Option Char} {position : Nat}
    (h : f ∈ p.findAllFrom fuel previous position t)
    (hs : Place.Behind before ⟨previous, position, t, []⟩) :
    ∃ between s, t = between ++ s.rest ∧ s.Behind (before ++ between) ∧ s.groups = [] ∧
      p.fit some s = some f.finish := by
  induction fuel generalizing previous position t before with
  | zero => cases h
  | succ fuel ih =>
      simp only [findAllFrom] at h
      split at h
      · cases h
      · rename_i found hfound
        obtain ⟨between, s, ht, hs', hgroups, hfit⟩ := fit_of_findFrom hfound hs
        rcases List.mem_cons.1 h with rfl | hlater
        · exact ⟨between, s, ht, hs', hgroups, hfit⟩
        · obtain ⟨u, hu, hlast, -⟩ := covers_of_fit hfit hs' hgroups
          have hstart : Place.Behind (before ++ between ++ u)
              ⟨found.finish.previous, found.finish.position, found.finish.rest, []⟩ :=
            ⟨hlast.position, hlast.previous⟩
          obtain ⟨between', s', ht', hs'', hfit'⟩ := ih hlater hstart
          refine ⟨between ++ (u ++ between'), s', ?_, ?_, hfit'⟩
          · rw [ht, hu, ht']
            simp only [List.append_assoc]
          · simpa only [List.append_assoc] using hs''

theorem fit_of_find (h : p.find t = some f) : ∃ before s, t = before ++ s.rest ∧
    s.Behind before ∧ s.groups = [] ∧ p.fit some s = some f.finish := by
  have hstart : Place.Behind [] ⟨none, 0, t, []⟩ := ⟨rfl, rfl⟩
  exact fit_of_findFrom h hstart

theorem fit_of_mem_findAll (h : f ∈ p.findAll t) : ∃ before s, t = before ++ s.rest ∧
    s.Behind before ∧ s.groups = [] ∧ p.fit some s = some f.finish := by
  have hstart : Place.Behind [] ⟨none, 0, t, []⟩ := ⟨rfl, rfl⟩
  exact fit_of_mem_findAllFrom h hstart

theorem captures_of_fit {n : Nat} {part : Text} (h : p.fit some s = some f.finish)
    (hs : s.Behind before) (hgroups : s.groups = []) (hpart : f.groupText? n = some part) :
    p.Captures n part ∧ part <:+: s.rest := by
  obtain ⟨u, hu, -, hcovers⟩ := covers_of_fit h hs hgroups
  obtain ⟨span, hlookup, rfl⟩ := Option.map_eq_some_iff.1 hpart
  obtain ⟨_, _, heq, -⟩ := List.lookup_eq_some_iff.1 hlookup
  have hmem : (n, span) ∈ f.finish.groups := by simp [heq]
  obtain ⟨hcaptures, hinfix⟩ := hcovers.captures hmem
  rw [hu]
  exact ⟨hcaptures, hinfix.trans (List.prefix_append u _).isInfix⟩

/-- What a group covers in the leftmost fit is a part of the text that it can capture. -/
theorem captures_of_find {n : Nat} {part : Text} (h : p.find t = some f)
    (hpart : f.groupText? n = some part) : p.Captures n part ∧ part <:+: t := by
  obtain ⟨before, s, rfl, hs, hgroups, hfit⟩ := fit_of_find h
  obtain ⟨hcaptures, hinfix⟩ := captures_of_fit hfit hs hgroups hpart
  exact ⟨hcaptures, hinfix.trans (List.suffix_append before s.rest).isInfix⟩

theorem captures_of_mem_findAll {n : Nat} {part : Text} (h : f ∈ p.findAll t)
    (hpart : f.groupText? n = some part) : p.Captures n part ∧ part <:+: t := by
  obtain ⟨before, s, rfl, hs, hgroups, hfit⟩ := fit_of_mem_findAll h
  obtain ⟨hcaptures, hinfix⟩ := captures_of_fit hfit hs hgroups hpart
  exact ⟨hcaptures, hinfix.trans (List.suffix_append before s.rest).isInfix⟩

/-! ## Fits that must be found -/

theorem isSome_fitMany {accepts : Char → Bool} {next : Place → Option Place}
    {groups : List (Nat × Span)} {previous : Option Char} {position : Nat}
    (hu : ∀ c ∈ u, accepts c = true)
    (hs : Place.Behind before ⟨previous, position, u ++ behind, groups⟩)
    (hnext : ∀ s : Place, s.Behind (before ++ u) → s.rest = behind → (next s).isSome = true) :
    (fitMany accepts next groups previous position (u ++ behind)).isSome = true := by
  induction u generalizing previous position before with
  | nil =>
      have hstay := hnext _ (by simpa using hs) rfl
      cases behind with
      | nil => exact hstay
      | cons d behind =>
          simp only [List.nil_append, fitMany]
          split
          · rfl
          · exact hstay
  | cons c u ih =>
      obtain ⟨hc, hrest⟩ := List.forall_mem_cons.1 hu
      obtain ⟨found, hfound⟩ := Option.isSome_iff_exists.1 <|
        ih hrest (hs.advance c (u ++ behind)) (by simpa using hnext)
      simp only [List.cons_append, fitMany, if_pos hc, hfound]
      rfl

theorem fitMany_of_longest {accepts : Char → Bool} {next : Place → Option Place}
    {groups : List (Nat × Span)} {previous : Option Char} {position : Nat}
    (hu : ∀ c ∈ u, accepts c = true) (hbehind : behind.head?.any accepts = false)
    (hs : Place.Behind before ⟨previous, position, u ++ behind, groups⟩)
    (hnext : ∀ s : Place, s.Behind (before ++ u) → s.rest = behind → (next s).isSome = true) :
    ∃ s : Place, s.Behind (before ++ u) ∧ s.rest = behind ∧ s.groups = groups ∧
      fitMany accepts next groups previous position (u ++ behind) = next s := by
  induction u generalizing previous position before with
  | nil =>
      refine ⟨_, by simpa using hs, rfl, rfl, ?_⟩
      cases behind with
      | nil => rfl
      | cons d behind =>
          have hd : accepts d = false := by simpa using hbehind
          simp [fitMany, hd]
  | cons c u ih =>
      obtain ⟨hc, hrest⟩ := List.forall_mem_cons.1 hu
      obtain ⟨s, hs', hrest', hgroups, heq⟩ :=
        ih hrest (hs.advance c (u ++ behind)) (by simpa using hnext)
      refine ⟨s, by simpa using hs', hrest', hgroups, ?_⟩
      obtain ⟨found, hfound⟩ := Option.isSome_iff_exists.1 (hnext s (by simpa using hs') hrest')
      simp only [List.cons_append, fitMany, if_pos hc, heq, hfound]

/-- A repetition takes all the characters of its class, if the place behind them leads on. -/
theorem fit_many_of_longest {accepts : Char → Bool} {next : Place → Option Place}
    (hs : s.Behind before) (hrest : s.rest = u ++ behind) (hu : ∀ c ∈ u, accepts c = true)
    (hbehind : behind.head?.any accepts = false)
    (hnext : ∀ s : Place, s.Behind (before ++ u) → s.rest = behind → (next s).isSome = true) :
    ∃ s' : Place, s'.Behind (before ++ u) ∧ s'.rest = behind ∧ s'.groups = s.groups ∧
      (many accepts).fit next s = next s' := by
  simp only [fit, hrest]
  exact fitMany_of_longest hu hbehind ⟨hs.position, hs.previous⟩ hnext

/-- The first of two patterns is taken where it leads on. -/
theorem fit_either_of_isSome {next : Place → Option Place} (h : (p.fit next s).isSome = true) :
    (either p q).fit next s = p.fit next s := by
  obtain ⟨found, hfound⟩ := Option.isSome_iff_exists.1 h
  simp only [fit, hfound]

/-- A pattern that covers what stands ahead fits there, if every place behind it leads on. -/
theorem Covers.isSome_fit {next : Place → Option Place} (h : p.Covers before u behind found)
    (hs : s.Behind before) (hrest : s.rest = u ++ behind)
    (hnext : ∀ s : Place, s.Behind (before ++ u) → s.rest = behind → (next s).isSome = true) :
    (p.fit next s).isSome = true := by
  -- on the pattern, for all continuations: in a sequence the second pattern is in the first's
  induction p generalizing before u behind found next s with
  | empty =>
      obtain ⟨rfl, -⟩ := h
      exact hnext s (by simpa using hs) hrest
  | one accepts =>
      obtain ⟨⟨c, rfl, hc⟩, -⟩ := h
      rw [List.singleton_append] at hrest
      simp only [fit, hrest, if_pos hc]
      exact hnext _ (hs.advance c behind) rfl
  | seq p q ihp ihq =>
      obtain ⟨v, w, earlier, later, rfl, -, hp, hq⟩ := h
      rw [List.append_assoc] at hrest
      apply ihp hp hs hrest
      intro s' hs' hrest'
      apply ihq hq hs' hrest'
      intro s'' hs''
      exact hnext s'' (by rwa [← List.append_assoc])
  | either p q ihp ihq =>
      simp only [fit]
      split
      · rfl
      · rename_i hnone
        rcases h with hp | hq
        · have hsome := ihp hp hs hrest hnext
          simp [hnone] at hsome
        · exact ihq hq hs hrest hnext
  | many accepts =>
      obtain ⟨hu, -⟩ := h
      simp only [fit, hrest]
      apply isSome_fitMany hu ?_ hnext
      exact ⟨hs.position, hs.previous⟩
  | group number body ih =>
      obtain ⟨inner, hbody, -⟩ := h
      apply ih hbody hs hrest
      intro s' hs' hrest'
      apply hnext
      · exact ⟨hs'.position, hs'.previous⟩
      · exact hrest'
  | edge =>
      obtain ⟨⟨rfl, hedge⟩, -⟩ := h
      rw [List.nil_append] at hrest
      simp only [fit, hs.previous, hrest, if_pos hedge]
      exact hnext s (by simpa using hs) hrest
  | outside accepts =>
      obtain ⟨⟨rfl, hout⟩, -⟩ := h
      rw [List.nil_append] at hrest
      simp only [fit, hs.previous, hrest, hout]
      exact hnext s (by simpa using hs) hrest

theorem Covers.isSome_fitAt {previous : Option Char} {position : Nat}
    (h : p.Covers before u behind found)
    (hs : Place.Behind before ⟨previous, position, u ++ behind, []⟩) :
    (p.fitAt previous position (u ++ behind)).isSome = true := by
  rw [fitAt, Option.isSome_map]
  exact h.isSome_fit hs rfl fun _ _ _ => rfl

theorem Covers.isSome_findFrom {between : Text} {previous : Option Char} {position : Nat}
    (h : p.Covers (before ++ between) u behind found)
    (hs : Place.Behind before ⟨previous, position, between ++ (u ++ behind), []⟩) :
    (p.findFrom previous position (between ++ (u ++ behind))).isSome = true := by
  -- a fit at an earlier place ends the search as well
  induction between generalizing before previous position with
  | nil =>
      rw [List.append_nil] at h
      have hfit := h.isSome_fitAt hs
      rw [List.nil_append]
      cases hrest : u ++ behind with
      | nil => rwa [hrest] at hfit
      | cons c t =>
          rw [hrest, Option.isSome_iff_exists] at hfit
          obtain ⟨f, hf⟩ := hfit
          simp only [findFrom, hf, Option.isSome_some]
  | cons c between ih =>
      rw [List.cons_append, findFrom]
      split
      · rfl
      · apply ih ?_ (hs.advance c _)
        rwa [List.append_assoc, List.singleton_append]

/-! ## Whether a pattern occurs -/

theorem occursIn_iff : p.occursIn t = true ↔ ∃ before u behind found,
    t = before ++ (u ++ behind) ∧ p.Covers before u behind found := by
  constructor
  · intro h
    obtain ⟨f, hf⟩ := Option.isSome_iff_exists.1 h
    obtain ⟨before, s, rfl, hs, hgroups, hfit⟩ := fit_of_find hf
    obtain ⟨u, hu, -, hcovers⟩ := covers_of_fit hfit hs hgroups
    exact ⟨before, u, f.finish.rest, _, congrArg (before ++ ·) hu, hcovers⟩
  · rintro ⟨before, u, behind, found, rfl, h⟩
    have hstart : Place.Behind [] ⟨none, 0, before ++ (u ++ behind), []⟩ := ⟨rfl, rfl⟩
    rw [← List.nil_append before] at h
    exact h.isSome_findFrom hstart

theorem covers_anyOf {ps : List Pattern} : (anyOf ps).Covers before u behind found ↔
    ∃ p ∈ ps, p.Covers before u behind found := by
  fun_induction anyOf ps with
  | case1 => simp [Covers]
  | case2 => simp
  | case3 _ _ _ ih => simp [Covers, ih]

theorem covers_wholeWords : (wholeWords p).Covers before u behind found ↔
    p.Covers before u behind found ∧
      Text.boundary before.getLast? (u ++ behind).head? = true ∧
      Text.boundary (before ++ u).getLast? behind.head? = true := by
  constructor
  · rintro ⟨v, w, earlier, later, rfl, rfl, hfront, hlast⟩
    obtain ⟨v₁, v₂, first, middle, rfl, rfl, hfirst, hp⟩ := hfront
    obtain ⟨⟨rfl, hopen⟩, rfl⟩ := hfirst
    obtain ⟨⟨rfl, hclose⟩, rfl⟩ := hlast
    simp only [List.append_nil, List.nil_append] at hp hopen hclose ⊢
    exact ⟨hp, hopen, hclose⟩
  · rintro ⟨hp, hopen, hclose⟩
    refine ⟨u, [], found, [], (List.append_nil u).symm, rfl, ?_, ⟨rfl, hclose⟩, rfl⟩
    refine ⟨[], u, [], found, rfl, (List.append_nil found).symm, ⟨⟨rfl, hopen⟩, rfl⟩, ?_⟩
    rwa [List.append_nil]

theorem occursIn_wholeWords_anyOf {ps : List Pattern} :
    (wholeWords (anyOf ps)).occursIn t = true ↔ ∃ p ∈ ps, (wholeWords p).occursIn t = true := by
  simp only [occursIn_iff, covers_wholeWords, covers_anyOf]
  constructor
  · rintro ⟨before, u, behind, found, rfl, ⟨p, hp, hcovers⟩, hends⟩
    exact ⟨p, hp, before, u, behind, found, rfl, hcovers, hends⟩
  · rintro ⟨p, hp, before, u, behind, found, rfl, hcovers, hends⟩
    exact ⟨before, u, behind, found, rfl, ⟨p, hp, hcovers⟩, hends⟩

theorem occursIn_wholeWords_of_subset {ps qs rs : List Pattern} (hsubset : ps ⊆ qs ++ rs)
    (h : (wholeWords (anyOf ps)).occursIn t = true) :
    (wholeWords (anyOf qs)).occursIn t = true ∨ (wholeWords (anyOf rs)).occursIn t = true := by
  obtain ⟨p, hp, hoccurs⟩ := occursIn_wholeWords_anyOf.1 h
  rcases List.mem_append.1 (hsubset hp) with hq | hr
  · exact .inl (occursIn_wholeWords_anyOf.2 ⟨p, hq, hoccurs⟩)
  · exact .inr (occursIn_wholeWords_anyOf.2 ⟨p, hr, hoccurs⟩)

end Pattern

end LotSearch
