import ClusterUpgrade.Http.Url
import ClusterUpgrade.Proofs.Text.Cutting

/-!
URLs that are read from a text that ends in plain segments. Main statements: `path_of_front`, the
path ends in the segments, and `query_of_front`, the query does if a query begins in front of them.
Whatever that front is, it alone decides which of the two it is and what stands before the segments.
-/

namespace ClusterUpgrade.Http.Url

open Text

variable {front tail text rest lead segment : List Char} {segments : List (List Char)}
  {p : Char → Bool} {c : Char} {url : Url}

/-- A segment that stands for itself in a path. -/
structure IsPlain (segment : List Char) : Prop where
  kept : segment.all (fun c => !isSlash c && !isControlOrSpace c) = true
  encoded : Percent.encode reservedInPath segment = segment
  undotted : plainDots segment ≠ ['.', '.'] ∧ plainDots segment ≠ ['.']

theorem IsPlain.of_mem (h : IsPlain segment) {c : Char} (hc : c ∈ segment) :
    isSlash c = false ∧ isControlOrSpace c = false := by
  have hkept := List.all_eq_true.mp h.kept c hc
  simpa using hkept

theorem exists_withoutCredentials_eq (url : Url) :
    ∃ credentials, url.withoutCredentials = { url with credentials } := by
  unfold withoutCredentials
  split
  · exact ⟨{}, rfl⟩
  · exact ⟨url.credentials, rfl⟩

theorem query_withParameter {url : Url} (h : url.query = none) (name value : String) :
    (url.withParameter name value).query = some (name.toList ++ '=' :: value.toList) := by
  rw [withParameter, h]

/-! ### Plain segments -/

/-- Segments, with a slash in front of each. -/
def below (segments : List (List Char)) : List Char := '/' :: join '/' segments

/-- Segments that stand for themselves, at least one, and with no mark of a query or a fragment. -/
structure ArePlain (segments : List (List Char)) : Prop where
  nonempty : segments ≠ []
  plain : ∀ segment ∈ segments, IsPlain segment
  unmarked : ∀ segment ∈ segments, '?' ∉ segment ∧ '#' ∉ segment

namespace ArePlain

theorem slash_not_mem (h : ArePlain segments) (hsegment : segment ∈ segments) : '/' ∉ segment :=
  fun hmem => by cases ((h.plain segment hsegment).of_mem hmem).1

theorem eq_or_mem (hc : c ∈ below segments) : c = '/' ∨ ∃ segment ∈ segments, c ∈ segment := by
  rcases List.mem_cons.mp hc with rfl | hc
  · exact .inl rfl
  · exact eq_or_mem_of_mem_join hc

theorem visible (h : ArePlain segments) (hc : c ∈ below segments) :
    isControlOrSpace c = false := by
  rcases eq_or_mem hc with rfl | ⟨segment, hsegment, hc⟩
  · decide
  · exact ((h.plain segment hsegment).of_mem hc).2

theorem query_not_mem (h : ArePlain segments) : '?' ∉ below segments := fun hc => by
  rcases eq_or_mem hc with hslash | ⟨segment, hsegment, hc⟩
  · cases hslash
  · exact (h.unmarked segment hsegment).1 hc

theorem fragment_not_mem (h : ArePlain segments) : '#' ∉ below segments := fun hc => by
  rcases eq_or_mem hc with hslash | ⟨segment, hsegment, hc⟩
  · cases hslash
  · exact (h.unmarked segment hsegment).2 hc

theorem splitOn_join (h : ArePlain segments) : splitOn '/' (join '/' segments) = segments :=
  Text.splitOn_join h.nonempty fun _ => h.slash_not_mem

end ArePlain

/-! ### What is read of a front

In front of the segments stands the first letter of `clusters_mgmt`, which belongs to no scheme and
is no blank, so reading scheme and host cannot use the front up. -/

/-- A character that is not dropped before the host of a URL. -/
structure Stays (c : Char) : Prop where
  visible : isControlOrSpace c = false
  unslashed : isSlash c = false
  unschemed : ∀ scheme : Scheme, c.toLower ∉ scheme.text ++ [':']

theorem stays_letter : Stays 'c' := ⟨by decide, by decide, by rintro (_ | _) <;> decide⟩

theorem stays_query : Stays '?' := ⟨by decide, by decide, by rintro (_ | _) <;> decide⟩

theorem mem_dropWhile_of_mem (hmem : c ∈ text) (hc : p c = false) : c ∈ text.dropWhile p := by
  rw [← List.takeWhile_append_dropWhile (p := p) (l := text)] at hmem
  rcases List.mem_append.mp hmem with htaken | hdropped
  · cases (List.mem_takeWhile_imp htaken).symm.trans hc
  · exact hdropped

theorem dropWhile_append_of_mem (hmem : c ∈ front) (hc : p c = false) (tail : List Char) :
    (front ++ tail).dropWhile p = front.dropWhile p ++ tail := by
  have hne : (front.dropWhile p).isEmpty = false :=
    List.isEmpty_eq_false_iff.mpr (List.ne_nil_of_mem (mem_dropWhile_of_mem hmem hc))
  rw [List.dropWhile_append, hne]
  rfl

/-- A text without the blanks in front of it and without line breaks. -/
def unbroken (text : List Char) : List Char :=
  (text.dropWhile isControlOrSpace).filter fun c => c != '\t' && c != '\n' && c != '\r'

theorem not_break_of_visible (h : isControlOrSpace c = false) :
    (c != '\t' && c != '\n' && c != '\r') = true := by
  have hne : ∀ d : Char, isControlOrSpace d = true → c ≠ d := by
    rintro d hd rfl
    cases hd.symm.trans h
  simp [hne '\t' (by decide), hne '\n' (by decide), hne '\r' (by decide)]

theorem Stays.mem_unbroken (h : Stays c) (hmem : c ∈ text) : c ∈ unbroken text :=
  List.mem_filter.mpr ⟨mem_dropWhile_of_mem hmem h.visible, not_break_of_visible h.visible⟩

theorem ArePlain.dropSuffixWhile_append (h : ArePlain segments) (front : List Char) :
    dropSuffixWhile isControlOrSpace (front ++ below segments) = front ++ below segments := by
  rcases List.eq_nil_or_concat (below segments) with hnil | ⟨init, last, hlast⟩
  · cases hnil
  have hvisible : isControlOrSpace last = false := h.visible (hlast ▸ by simp)
  rw [hlast, List.concat_eq_append, ← List.append_assoc]
  exact dropSuffixWhile_append_of_not hvisible _

theorem ArePlain.unbroken_append (h : ArePlain segments) (hletter : 'c' ∈ front) :
    (dropSuffixWhile isControlOrSpace ((front ++ below segments).dropWhile isControlOrSpace)).filter
        (fun c => c != '\t' && c != '\n' && c != '\r') = unbroken front ++ below segments := by
  rw [dropWhile_append_of_mem hletter stays_letter.visible, h.dropSuffixWhile_append,
    List.filter_append, unbroken]
  congr 1
  exact List.filter_eq_self.mpr fun c hc => not_break_of_visible (h.visible hc)

theorem dropCase?_eq_some {lead : List Char} (h : dropCase? lead text = some rest) :
    (text.take lead.length).map Char.toLower = lead ∧ rest = text.drop lead.length := by
  unfold dropCase? at h
  split at h
  · next hlead =>
    cases h
    exact ⟨hlead, rfl⟩
  · cases h

theorem dropCase?_of_scheme? {scheme : Scheme} (h : scheme? text = some (scheme, rest)) :
    dropCase? (scheme.text ++ [':']) text = some rest := by
  obtain ⟨found, -, hfound⟩ := List.exists_of_findSome?_eq_some h
  obtain ⟨after, hdrop, heq⟩ := Option.map_eq_some_iff.mp hfound
  cases heq
  exact hdrop

/-- A lead without slashes stands in front of a tail that begins with one. -/
theorem dropCase?_append (hslash : '/' ∉ lead) (front tail : List Char) :
    dropCase? lead (front ++ '/' :: tail) = (dropCase? lead front).map (· ++ '/' :: tail) := by
  unfold dropCase?
  by_cases hlength : lead.length ≤ front.length
  · rw [List.take_append_of_le_length hlength, List.drop_append_of_le_length hlength]
    split <;> rfl
  · have hshort : (front.take lead.length).map Char.toLower ≠ lead := fun hlead => by
      have hcount := congrArg List.length hlead
      rw [List.length_map, List.length_take] at hcount
      omega
    have htaken : '/' ∈ (front ++ '/' :: tail).take lead.length := by
      obtain ⟨more, hmore⟩ := Nat.exists_eq_add_of_lt (Nat.lt_of_not_le hlength)
      have htail : lead.length - front.length = more + 1 := by omega
      rw [List.take_append, htail, List.take_succ_cons]
      exact List.mem_append_right _ List.mem_cons_self
    have hslashed : ((front ++ '/' :: tail).take lead.length).map Char.toLower ≠ lead :=
      fun hlead => hslash (hlead ▸ List.mem_map_of_mem htaken)
    rw [if_neg hshort, if_neg hslashed]
    rfl

theorem scheme?_append (front tail : List Char) :
    scheme? (front ++ '/' :: tail) =
      (scheme? front).map fun found => (found.1, found.2 ++ '/' :: tail) := by
  have hslash : ∀ scheme : Scheme, '/' ∉ scheme.text ++ [':'] := by rintro (_ | _) <;> decide
  simp only [scheme?, List.findSome?_cons, List.findSome?_nil, dropCase?_append (hslash _)]
  cases dropCase? (Scheme.http.text ++ [':']) front with
  | some => rfl
  | none => cases dropCase? (Scheme.https.text ++ [':']) front <;> rfl

theorem Stays.mem_of_scheme? {scheme : Scheme} (h : Stays c) (hmem : c ∈ text)
    (hscheme : scheme? text = some (scheme, rest)) : c ∈ rest := by
  obtain ⟨hlead, rfl⟩ := dropCase?_eq_some (dropCase?_of_scheme? hscheme)
  rw [← List.take_append_drop (scheme.text ++ [':']).length text] at hmem
  rcases List.mem_append.mp hmem with htaken | hdropped
  · exact absurd (hlead ▸ List.mem_map_of_mem htaken) (h.unschemed scheme)
  · exact hdropped

/-- What is left of a front behind the scheme and the slashes after it. -/
def restOf? (front : List Char) : Option (List Char) :=
  (scheme? (unbroken front)).map fun found => found.2.dropWhile isSlash

theorem Stays.mem_of_restOf? (h : Stays c) (hmem : c ∈ front) (hrest : restOf? front = some rest) :
    c ∈ rest := by
  obtain ⟨⟨scheme, found⟩, hscheme, rfl⟩ := Option.map_eq_some_iff.mp hrest
  exact mem_dropWhile_of_mem (h.mem_of_scheme? (h.mem_unbroken hmem) hscheme) h.unslashed

theorem subset_of_restOf? (h : restOf? front = some rest) : rest ⊆ front := by
  obtain ⟨⟨scheme, found⟩, hscheme, rfl⟩ := Option.map_eq_some_iff.mp h
  obtain ⟨-, rfl⟩ := dropCase?_eq_some (dropCase?_of_scheme? hscheme)
  exact List.Sublist.subset <| (List.dropWhile_sublist _).trans <| (List.drop_sublist _ _).trans <|
    List.filter_sublist.trans (List.dropWhile_sublist _)

/-- Path and query are read from the rest of the front and the segments behind it. -/
theorem ArePlain.read (h : ArePlain segments) (hletter : 'c' ∈ front) (hfragment : '#' ∉ front)
    (hurl : ofChars? (front ++ below segments) = some url) :
    ∃ rest, restOf? front = some rest ∧
      url.path = pathOf ((cutAt '?' (rest ++ below segments)).1.dropWhile (!isSlash ·)) ∧
      url.query = (cutAt '?' (rest ++ below segments)).2.map (Percent.encode reservedInQuery) := by
  unfold ofChars? at hurl
  simp only [Option.bind_eq_bind, Option.bind_eq_some_iff] at hurl
  obtain ⟨⟨scheme, behind⟩, hscheme, host, -, port, -, heq⟩ := hurl
  cases heq
  have hbelow : scheme? (unbroken front ++ below segments) =
      (scheme? (unbroken front)).map fun found => (found.1, found.2 ++ below segments) :=
    scheme?_append _ _
  rw [h.unbroken_append hletter, hbelow] at hscheme
  obtain ⟨⟨_, found⟩, hfound, heq⟩ := Option.map_eq_some_iff.mp hscheme
  cases heq
  have hkept : 'c' ∈ found := stays_letter.mem_of_scheme? (stays_letter.mem_unbroken hletter) hfound
  have hrest : restOf? front = some (found.dropWhile isSlash) := by rw [restOf?, hfound]; rfl
  have hbehind : (found ++ below segments).dropWhile isSlash =
      found.dropWhile isSlash ++ below segments :=
    dropWhile_append_of_mem hkept stays_letter.unslashed _
  have hcut : cutAt '#' (found.dropWhile isSlash ++ below segments) =
      (found.dropWhile isSlash ++ below segments, none) := by
    refine cutAt_of_not_mem fun hmem => ?_
    rcases List.mem_append.mp hmem with hmem | hmem
    · exact hfragment (subset_of_restOf? hrest hmem)
    · exact h.fragment_not_mem hmem
  refine ⟨_, hrest, ?_, ?_⟩
  · simp only [hbehind, hcut]
  · simp only [hbehind, hcut]

/-! ### Users -/

theorem resolve_plain (h : ∀ segment ∈ segments, IsPlain segment) (resolved : List (List Char)) :
    resolve resolved segments = resolved.reverse ++ segments := by
  induction segments generalizing resolved with
  | nil => rw [resolve, List.append_nil]
  | cons segment segments ih =>
    obtain ⟨hsegment, hothers⟩ := List.forall_mem_cons.mp h
    rw [resolve, if_neg hsegment.undotted.1, if_neg hsegment.undotted.2, hsegment.encoded,
      ih hothers, List.reverse_cons, List.append_assoc, List.singleton_append]

/-- Runs in front of plain segments are resolved by themselves. -/
theorem exists_resolve_append (resolved runs : List (List Char)) :
    ∃ before, ∀ segments, ArePlain segments →
      resolve resolved (runs ++ segments) = before ++ segments := by
  induction runs generalizing resolved with
  | nil => exact ⟨resolved.reverse, fun segments h => resolve_plain h.plain resolved⟩
  | cons first rest ih =>
    -- Dots at the end of a path would add an empty segment, and these are not at the end.
    have hend : ∀ segments, ArePlain segments → (rest ++ segments).isEmpty = false := fun _ h =>
      List.isEmpty_eq_false_iff.mpr (List.append_ne_nil_of_right_ne_nil _ h.nonempty)
    by_cases hback : plainDots first = ['.', '.']
    · obtain ⟨before, hbefore⟩ := ih (goBack resolved)
      refine ⟨before, fun segments h => ?_⟩
      simp [resolve, hback, hend segments h, hbefore segments h]
    by_cases hstay : plainDots first = ['.']
    · obtain ⟨before, hbefore⟩ := ih resolved
      refine ⟨before, fun segments h => ?_⟩
      simp [resolve, hstay, hend segments h, hbefore segments h]
    · obtain ⟨before, hbefore⟩ := ih (Percent.encode reservedInPath first :: resolved)
      refine ⟨before, fun segments h => ?_⟩
      rw [List.cons_append, resolve, if_neg hback, if_neg hstay, hbefore segments h]

theorem exists_below_append (others : List (List Char)) :
    ∃ front, ∀ segments, ArePlain segments →
      below (others ++ segments) = front ++ below segments := by
  induction others with
  | nil => exact ⟨[], fun segments _ => rfl⟩
  | cons first rest ih =>
    obtain ⟨front, hfront⟩ := ih
    refine ⟨'/' :: first ++ front, fun segments h => ?_⟩
    have hjoin : below (first :: (rest ++ segments)) =
        '/' :: first ++ below (rest ++ segments) := by
      cases hrest : rest ++ segments with
      | nil => exact absurd (List.append_eq_nil_iff.mp hrest).2 h.nonempty
      | cons => rfl
    rw [List.cons_append, hjoin, hfront segments h, List.append_assoc]

theorem exists_pathOf_append (front : List Char) :
    ∃ before, ∀ segments, ArePlain segments →
      pathOf (front ++ below segments) = before ++ below segments := by
  let slashed (c : Char) : Char := if isSlash c then '/' else c
  have hsegments : ∀ segments, ArePlain segments →
      splitOn '/' ((front ++ below segments).map slashed) =
        splitOn '/' (front.map slashed) ++ segments := fun segments h => by
    have heach : ∀ c ∈ join '/' segments, slashed c = id c := fun c hc => by
      rcases eq_or_mem_of_mem_join hc with rfl | ⟨segment, hsegment, hc⟩
      · rfl
      · exact if_neg (by simp [((h.plain segment hsegment).of_mem hc).1])
    rw [below, List.map_append, List.map_cons, List.map_congr_left heach, List.map_id]
    exact (splitOn_append '/' _ _).trans (by rw [h.splitOn_join])
  obtain ⟨runs, hruns⟩ : ∃ runs, ∀ segments, ArePlain segments →
      pathOf (front ++ below segments) = below (resolve [] (runs ++ segments)) := by
    unfold pathOf
    cases hfront : splitOn '/' (front.map slashed) with
    | nil => exact absurd hfront (splitOn_ne_nil '/' _)
    | cons run runs =>
      cases run with
      | nil => exact ⟨runs, fun segments h => by rw [hsegments segments h, hfront]; rfl⟩
      | cons c more =>
        exact ⟨(c :: more) :: runs, fun segments h => by rw [hsegments segments h, hfront]; rfl⟩
  obtain ⟨resolved, hresolved⟩ := exists_resolve_append [] runs
  obtain ⟨before, hbefore⟩ := exists_below_append resolved
  refine ⟨before, fun segments h => ?_⟩
  rw [hruns segments h, hresolved segments h, hbefore segments h]

theorem dropWhile_append_below (front : List Char) (segments : List (List Char)) :
    (front ++ below segments).dropWhile (!isSlash ·) =
      front.dropWhile (!isSlash ·) ++ below segments := by
  rw [List.dropWhile_append]
  split
  · next hempty =>
    rw [List.isEmpty_iff.mp hempty]
    rfl
  · rfl

/-- **Segments at the end of a path.** -/
theorem path_of_front (hletter : 'c' ∈ front) (hquery : '?' ∉ front) (hfragment : '#' ∉ front) :
    ∃ before, ∀ segments url, ArePlain segments → ofChars? (front ++ below segments) = some url →
      url.query = none ∧ url.path = before ++ below segments := by
  cases hrest : restOf? front with
  | none =>
    refine ⟨[], fun segments url h hurl => ?_⟩
    obtain ⟨rest, hsome, -⟩ := h.read hletter hfragment hurl
    cases hrest.symm.trans hsome
  | some rest =>
    obtain ⟨before, hbefore⟩ := exists_pathOf_append (rest.dropWhile (!isSlash ·))
    refine ⟨before, fun segments url h hurl => ?_⟩
    obtain ⟨_, hsome, hpath, hread⟩ := h.read hletter hfragment hurl
    cases hrest.symm.trans hsome
    have hcut : cutAt '?' (rest ++ below segments) = (rest ++ below segments, none) := by
      refine cutAt_of_not_mem fun hmem => ?_
      rcases List.mem_append.mp hmem with hmem | hmem
      · exact hquery (subset_of_restOf? hrest hmem)
      · exact h.query_not_mem hmem
    rw [hcut] at hpath hread
    rw [dropWhile_append_below, hbefore segments h] at hpath
    exact ⟨hread, hpath⟩

/-- **Segments at the end of a query.** -/
theorem query_of_front (hletter : 'c' ∈ front) (hquery : '?' ∈ front) (hfragment : '#' ∉ front) :
    ∃ path before, ∀ segments url, ArePlain segments →
      ofChars? (front ++ below segments) = some url →
        url.path = path ∧
          url.query = some (before ++ Percent.encode reservedInQuery (below segments)) := by
  cases hrest : restOf? front with
  | none =>
    refine ⟨[], [], fun segments url h hurl => ?_⟩
    obtain ⟨rest, hsome, -⟩ := h.read hletter hfragment hurl
    cases hrest.symm.trans hsome
  | some rest =>
    obtain ⟨first, behind, rfl, hfirst⟩ :=
      List.eq_append_cons_of_mem (stays_query.mem_of_restOf? hquery hrest)
    refine ⟨pathOf (first.dropWhile (!isSlash ·)), Percent.encode reservedInQuery behind,
      fun segments url h hurl => ?_⟩
    obtain ⟨_, hsome, hpath, hread⟩ := h.read hletter hfragment hurl
    cases hrest.symm.trans hsome
    rw [List.append_assoc, List.cons_append, cutAt_append hfirst] at hpath hread
    refine ⟨hpath, hread.trans ?_⟩
    rw [Option.map_some, Percent.encode, Percent.encode, Percent.encode, List.flatMap_append]

/-- The text ends in a tail. In front of that stands the first letter of `clusters`. -/
def EndsIn (tail text : List Char) : Prop := ∃ front, text = front ++ tail ∧ 'c' ∈ front

/-- **The end of a path.** For every text in front of the segment. -/
theorem path_of_parse {url : Url} (h : ofChars? text = some url)
    (hends : EndsIn ('/' :: segment) text) (hplain : IsPlain segment) (hquery : '?' ∉ text)
    (hfragment : '#' ∉ text) : url.query = none ∧ ∃ front, url.path = front ++ '/' :: segment := by
  obtain ⟨front, rfl, hletter⟩ := hends
  rw [List.mem_append, not_or] at hquery hfragment
  have hsegments : ArePlain [segment] :=
    { nonempty := List.cons_ne_nil _ _
      plain := List.forall_mem_singleton.mpr hplain
      unmarked := List.forall_mem_singleton.mpr
        ⟨List.not_mem_of_not_mem_cons hquery.2, List.not_mem_of_not_mem_cons hfragment.2⟩ }
  obtain ⟨before, hbefore⟩ := path_of_front hletter hquery.1 hfragment.1
  obtain ⟨hnone, hpath⟩ := hbefore [segment] url hsegments h
  exact ⟨hnone, before, hpath⟩

end ClusterUpgrade.Http.Url
