import ClusterUpgrade.Proofs.Http.Exchanges
import ClusterUpgrade.Proofs.Http.Paths
import ClusterUpgrade.Proofs.Json.Reading
import ClusterUpgrade.Proofs.Text.Digits

/-!
Requests that show which call they make. Main statement: `Client.tellsCallsApart`, two calls of one
client that send the same request are the same call. The segments below the root, the parameters and
the body of a request together can be read back as its call, and the segments and the parameters can
be told from the path and the query, wherever the address of the server makes them stand.
-/

namespace ClusterUpgrade

def Target.ids : Target → List String
  | .cluster id => [id]
  | .nodePool id pool => [id, pool]

/-- The ids that stand in the URL of a call. -/
def RemoteCall.urlIds : RemoteCall → List String
  | .policyStatus target policyId | .deletePolicy target policyId => target.ids ++ [policyId]
  | .listPolicies target _ _ | .createPolicy target _ | .dryRunPolicy target _
  | .currentVersion target => target.ids
  | .agreeToGate clusterId _ => [clusterId]
  | .versionRecord id => [id]

namespace Http

open Text

/-! ### Ids in URLs -/

def isIdChar (c : Char) : Bool :=
  isDigit c || ('a' ≤ c && c ≤ 'z') || ('A' ≤ c && c ≤ 'Z') || ['-', '_', '.'].contains c

/-- An id of ASCII letters, digits, hyphens, underscores and dots that is no dot segment. -/
structure IsUrlId (id : String) : Prop where
  nonempty : id ≠ ""
  spelled : id.toList.all isIdChar = true
  undotted : id ≠ "." ∧ id ≠ ".."

instance (id : String) : Decidable (IsUrlId id) :=
  decidable_of_iff (id ≠ "" ∧ id.toList.all isIdChar = true ∧ id ≠ "." ∧ id ≠ "..")
    ⟨fun h => ⟨h.1, h.2.1, h.2.2⟩, fun h => ⟨h.nonempty, h.spelled, h.undotted⟩⟩

theorem toNat_of_isIdChar {c : Char} (h : isIdChar c = true) : 0x2d ≤ c.toNat ∧ c.toNat < 0x7f := by
  simp only [isIdChar, Bool.or_eq_true, Bool.and_eq_true, decide_eq_true_eq, Char.le_def,
    UInt32.le_iff_toNat_le] at h
  rcases h with ((hdigit | ⟨hlow, hhigh⟩) | ⟨hlow, hhigh⟩) | hmark
  · obtain ⟨hlow, hhigh⟩ := isDigit_iff.mp hdigit
    omega
  · change 97 ≤ c.toNat at hlow
    change c.toNat ≤ 122 at hhigh
    omega
  · change 65 ≤ c.toNat at hlow
    change c.toNat ≤ 90 at hhigh
    omega
  · obtain rfl | rfl | rfl : c = '-' ∨ c = '_' ∨ c = '.' := by simpa using hmark
    all_goals decide

theorem Percent.encode_eq_self {reserved text : List Char}
    (h : ∀ c ∈ text, 0x20 ≤ c.toNat ∧ c.toNat < 0x7f ∧ c ∉ reserved) :
    Percent.encode reserved text = text := by
  induction text with
  | nil => rfl
  | cons c text ih =>
    obtain ⟨⟨hlow, hhigh, hreserved⟩, hothers⟩ := List.forall_mem_cons.mp h
    have hkept : ¬(c.toNat < 0x20 ∨ 0x7f ≤ c.toNat ∨ c ∈ reserved) := by
      simp only [hreserved, or_false]
      omega
    rw [Percent.encode, List.flatMap_cons, if_neg hkept, ← Percent.encode, ih hothers,
      List.singleton_append]

theorem Url.plainDots_eq_self {segment : List Char} (h : '%' ∉ segment) :
    Url.plainDots segment = segment := by
  induction segment with
  | nil => rfl
  | cons c rest ih =>
    obtain ⟨hc, hrest⟩ := not_or.mp (mt List.mem_cons.mpr h)
    rw [Url.plainDots, ih hrest]
    · rintro _ rfl -
      exact hc rfl
    · rintro _ rfl -
      exact hc rfl

namespace IsUrlId

variable {id : String} {c : Char}

theorem ne_of_mem (h : IsUrlId id) (hc : c ∈ id.toList) {d : Char} (hd : isIdChar d = false) :
    c ≠ d := by
  rintro rfl
  cases hd.symm.trans (List.all_eq_true.mp h.spelled c hc)

theorem not_mem_of_not (h : IsUrlId id) {d : Char} (hd : isIdChar d = false) : d ∉ id.toList :=
  fun hc => h.ne_of_mem hc hd rfl

theorem encode_eq_self (h : IsUrlId id) {reserved : List Char}
    (hreserved : reserved.any isIdChar = false) :
    Percent.encode reserved id.toList = id.toList := by
  refine Percent.encode_eq_self fun c hc => ?_
  have hid := List.all_eq_true.mp h.spelled c hc
  obtain ⟨hlow, hhigh⟩ := toNat_of_isIdChar hid
  exact ⟨by omega, hhigh, fun hmem => List.any_eq_false.mp hreserved c hmem hid⟩

theorem isPlain (h : IsUrlId id) : Url.IsPlain id.toList where
  kept := by
    refine List.all_eq_true.mpr fun c hc => ?_
    obtain ⟨hlow, -⟩ := toNat_of_isIdChar (List.all_eq_true.mp h.spelled c hc)
    have hspace : ¬c.toNat ≤ 0x20 := by omega
    simp [Url.isSlash, Url.isControlOrSpace, hspace, h.ne_of_mem hc (d := '/') (by decide),
      h.ne_of_mem hc (d := '\\') (by decide)]
  encoded := h.encode_eq_self (by decide)
  undotted := by
    rw [Url.plainDots_eq_self (h.not_mem_of_not (by decide))]
    exact ⟨fun hdots => h.undotted.2 (String.toList_inj.mp hdots),
      fun hdot => h.undotted.1 (String.toList_inj.mp hdot)⟩

end IsUrlId

/-! ### Segments -/

/-- The words that paths have between ids. -/
def routeWords : List String :=
  ["clusters", "node_pools", "upgrade_policies", "state", "gate_agreements", "versions"]

theorem isUrlId_of_mem_routeWords : ∀ word ∈ routeWords, IsUrlId word := by decide

namespace Client

theorem letter_mem_baseUrl {address token : String} :
    'c' ∈ (ofAddress address token).baseUrl.toList := by
  rw [ofAddress, String.toList_append]
  exact List.mem_append_right _ (by decide)

theorem mem_of_mem_baseUrl {address token : String} {c : Char}
    (h : c ∈ (ofAddress address token).baseUrl.toList) :
    c ∈ address.toList ∨ c ∈ rootPath.toList := by
  rw [ofAddress, String.toList_append, String.toList_ofList, List.mem_append] at h
  exact h.imp_left fun hmem => (dropSuffixWhile_sublist _ _).subset hmem

/-- The path of a target below the root, cut up at its slashes. -/
def targetSegments : Target → List String
  | .cluster id => ["clusters", id]
  | .nodePool id pool => ["clusters", id, "node_pools", pool]

/-- The path of a call below the root, cut up at its slashes. -/
def segments : RemoteCall → List String
  | .listPolicies target _ _ | .createPolicy target _ | .dryRunPolicy target _ =>
    targetSegments target ++ ["upgrade_policies"]
  | .policyStatus target policyId =>
    targetSegments target ++ "upgrade_policies" :: policyId ::
      match target with
      | .cluster _ => ["state"]
      | .nodePool _ _ => []
  | .deletePolicy target policyId => targetSegments target ++ ["upgrade_policies", policyId]
  | .agreeToGate clusterId _ => ["clusters", clusterId, "gate_agreements"]
  | .versionRecord id => ["versions", id]
  | .currentVersion target => targetSegments target

theorem route_eq_below (call : RemoteCall) :
    '/' :: (route call).2.toList = Url.below ((segments call).map String.toList) := by
  cases call with
  | listPolicies target | policyStatus target | deletePolicy target | createPolicy target
  | dryRunPolicy target | currentVersion target =>
    cases target <;>
      simp [route, segments, targetSegments, policyPath, policiesPath, Target.path, Url.below, join]
  | agreeToGate | versionRecord => simp [route, segments, Url.below, join]

theorem mem_segments {call : RemoteCall} {segment : String} (h : segment ∈ segments call) :
    segment ∈ routeWords ∨ segment ∈ call.urlIds := by
  cases call with
  | listPolicies target | policyStatus target | deletePolicy target | createPolicy target
  | dryRunPolicy target | currentVersion target =>
    cases target <;>
      simp only [segments, targetSegments, routeWords, RemoteCall.urlIds, Target.ids,
        List.cons_append, List.nil_append, List.mem_cons, List.not_mem_nil] at h ⊢ <;> tauto
  | agreeToGate | versionRecord =>
    simp only [segments, routeWords, RemoteCall.urlIds, List.mem_cons, List.not_mem_nil] at h ⊢
    tauto

theorem isUrlId_of_mem_segments {call : RemoteCall} (h : ∀ id ∈ call.urlIds, IsUrlId id) :
    ∀ segment ∈ segments call, IsUrlId segment := fun segment hsegment =>
  (mem_segments hsegment).elim (isUrlId_of_mem_routeWords segment) (h segment)

theorem arePlain_segments {call : RemoteCall} (h : ∀ id ∈ call.urlIds, IsUrlId id) :
    Url.ArePlain ((segments call).map String.toList) := by
  have hids := isUrlId_of_mem_segments h
  refine ⟨?_, ?_, ?_⟩
  · cases call with
    | listPolicies target | policyStatus target | deletePolicy target | createPolicy target
    | dryRunPolicy target | currentVersion target => cases target <;> exact List.cons_ne_nil _ _
    | agreeToGate | versionRecord => exact List.cons_ne_nil _ _
  · exact List.forall_mem_map.mpr fun segment hsegment => (hids segment hsegment).isPlain
  · exact List.forall_mem_map.mpr fun segment hsegment =>
      ⟨(hids segment hsegment).not_mem_of_not (by decide),
        (hids segment hsegment).not_mem_of_not (by decide)⟩

/-- The characters of the path of a call below the root. -/
theorem eq_or_isIdChar {call : RemoteCall} (h : ∀ id ∈ call.urlIds, IsUrlId id) {c : Char}
    (hc : c ∈ Url.below ((segments call).map String.toList)) : c = '/' ∨ isIdChar c = true := by
  refine (Url.ArePlain.eq_or_mem hc).imp_right ?_
  rintro ⟨_, hmapped, hmem⟩
  obtain ⟨segment, hsegment, rfl⟩ := List.mem_map.mp hmapped
  exact List.all_eq_true.mp (isUrlId_of_mem_segments h segment hsegment).spelled c hmem

theorem segments_inj {call other : RemoteCall} (hcall : ∀ id ∈ call.urlIds, IsUrlId id)
    (hother : ∀ id ∈ other.urlIds, IsUrlId id)
    (h : Url.below ((segments call).map String.toList) =
      Url.below ((segments other).map String.toList)) : segments call = segments other := by
  have hcallPlain := arePlain_segments hcall
  have hotherPlain := arePlain_segments hother
  have hmap := join_inj hcallPlain.nonempty hotherPlain.nonempty
    (fun _ => hcallPlain.slash_not_mem) (fun _ => hotherPlain.slash_not_mem) (List.cons.inj h).2
  exact List.map_injective_iff.mpr (fun _ _ => String.toList_inj.mp) hmap

/-! ### Parameters -/

def partOf (parameter : String × String) : List Char :=
  parameter.1.toList ++ '=' :: parameter.2.toList

/-- The parameters of a call as they stand in a query. -/
def parts (call : RemoteCall) : List (List Char) := (parameters call).map partOf

/-- A query with more parts behind it. -/
def queryWith : Option (List Char) → List (List Char) → Option (List Char)
  | none, [] => none
  | none, part :: parts => some (join '&' (part :: parts))
  | some query, parts => some (join '&' (query :: parts))

theorem ampersand_not_mem_parts {call : RemoteCall} {part : List Char} (h : part ∈ parts call) :
    '&' ∉ part := by
  have hnumeral (n : Nat) : '&' ∉ (natText n).toList := fun hmem => by
    rw [natText, String.toList_ofList] at hmem
    cases isDigit_of_mem_digits n '&' hmem
  cases call with
  | listPolicies target page size =>
    rcases List.mem_pair.mp h with rfl | rfl <;> simp [partOf, hnumeral]
  | dryRunPolicy =>
    rw [List.mem_singleton.mp h]
    decide
  | _ => cases h

theorem path_foldl_withParameter (url : Url) (given : List (String × String)) :
    (given.foldl (fun url (name, value) => url.withParameter name value) url).path = url.path := by
  induction given generalizing url with
  | nil => rfl
  | cons parameter given ih => exact ih _

theorem join_append_cons (separator : Char) (front run : List Char) (runs : List (List Char)) :
    join separator ((front ++ run) :: runs) = front ++ join separator (run :: runs) := by
  cases runs with
  | nil => rfl
  | cons => exact List.append_assoc ..

theorem query_foldl_of_some {url : Url} {query : List Char} (hquery : url.query = some query)
    (hne : query ≠ []) (given : List (String × String)) :
    (given.foldl (fun url (name, value) => url.withParameter name value) url).query =
      some (join '&' (query :: given.map partOf)) := by
  induction given generalizing url query with
  | nil => exact hquery
  | cons parameter given ih =>
    have hnext : (url.withParameter parameter.1 parameter.2).query =
        some (query ++ '&' :: partOf parameter) := by
      rw [Url.withParameter, hquery]
      cases query with
      | nil => exact absurd rfl hne
      | cons => rfl
    have hmarked : join '&' (('&' :: partOf parameter) :: given.map partOf) =
        '&' :: join '&' (partOf parameter :: given.map partOf) := join_append_cons '&' ['&'] _ _
    refine (ih hnext (List.append_ne_nil_of_left_ne_nil hne _)).trans ?_
    rw [join_append_cons, hmarked]
    rfl

theorem query_foldl_withParameter {url : Url} (hquery : url.query ≠ some [])
    (given : List (String × String)) :
    (given.foldl (fun url (name, value) => url.withParameter name value) url).query =
      queryWith url.query (given.map partOf) := by
  cases hfound : url.query with
  | some query => exact query_foldl_of_some hfound (fun hnil => hquery (hnil ▸ hfound)) given
  | none =>
    cases given with
    | nil => exact hfound
    | cons parameter given =>
      exact query_foldl_of_some (Url.query_withParameter hfound parameter.1 parameter.2)
        (List.append_ne_nil_of_right_ne_nil _ (List.cons_ne_nil _ _)) given

/-! ### What a URL shows -/

theorem url?_eq (client : Client) (call : RemoteCall) :
    client.url? call =
      (Url.ofChars? (client.baseUrl.toList ++ Url.below ((segments call).map String.toList))).map
        fun url => (parameters call).foldl (fun url (name, value) => url.withParameter name value)
          url.withoutCredentials := by
  have htext : (client.baseUrl ++ "/" ++ (route call).2).toList =
      client.baseUrl.toList ++ '/' :: (route call).2.toList := by simp
  rw [url?, address?, Url.parse?, htext, route_eq_below]
  exact bind_pure_comp _ _

theorem url?_eq_some {client : Client} {call : RemoteCall} {url : Url}
    (h : client.url? call = some url) :
    ∃ parsed, Url.ofChars? (client.baseUrl.toList ++
        Url.below ((segments call).map String.toList)) = some parsed ∧
      url.path = parsed.path ∧
      (parsed.query ≠ some [] → url.query = queryWith parsed.query (parts call)) := by
  rw [url?_eq] at h
  obtain ⟨parsed, hparsed, rfl⟩ := Option.map_eq_some_iff.mp h
  obtain ⟨credentials, hstripped⟩ := parsed.exists_withoutCredentials_eq
  refine ⟨parsed, hparsed, ?_, fun hquery => ?_⟩
  · rw [path_foldl_withParameter, hstripped]
  · rw [query_foldl_withParameter (by rwa [hstripped]), hstripped]
    rfl

theorem encode_below {call : RemoteCall} (h : ∀ id ∈ call.urlIds, IsUrlId id) :
    Percent.encode Url.reservedInQuery (Url.below ((segments call).map String.toList)) =
      Url.below ((segments call).map String.toList) := by
  refine Percent.encode_eq_self fun c hc => ?_
  have hreserved : Url.reservedInQuery.any isIdChar = false := by decide
  rcases eq_or_isIdChar h hc with rfl | hid
  · decide
  · obtain ⟨hlow, hhigh⟩ := toNat_of_isIdChar hid
    exact ⟨by omega, hhigh, fun hmem => List.any_eq_false.mp hreserved c hmem hid⟩

theorem join_below_inj {call other : RemoteCall} (hcall : ∀ id ∈ call.urlIds, IsUrlId id)
    (hother : ∀ id ∈ other.urlIds, IsUrlId id)
    (h : join '&' (Url.below ((segments call).map String.toList) :: parts call) =
      join '&' (Url.below ((segments other).map String.toList) :: parts other)) :
    segments call = segments other ∧ parts call = parts other := by
  have hfree {call : RemoteCall} (hids : ∀ id ∈ call.urlIds, IsUrlId id) :
      ∀ run ∈ Url.below ((segments call).map String.toList) :: parts call, '&' ∉ run := by
    refine List.forall_mem_cons.mpr ⟨fun hc => ?_, fun part => ampersand_not_mem_parts⟩
    exact absurd (eq_or_isIdChar hids hc) (by decide)
  obtain ⟨hbelow, hparts⟩ := List.cons.inj <|
    join_inj (List.cons_ne_nil _ _) (List.cons_ne_nil _ _) (hfree hcall) (hfree hother) h
  exact ⟨segments_inj hcall hother hbelow, hparts⟩

theorem queryWith_none_inj {call other : RemoteCall}
    (h : queryWith none (parts call) = queryWith none (parts other)) :
    parts call = parts other := by
  cases hcall : parts call with
  | nil =>
    cases hother : parts other with
    | nil => rfl
    | cons =>
      rw [hcall, hother] at h
      cases h
  | cons part more =>
    cases hother : parts other with
    | nil =>
      rw [hcall, hother] at h
      cases h
    | cons otherPart others =>
      rw [hcall, hother] at h
      exact join_inj (List.cons_ne_nil _ _) (List.cons_ne_nil _ _)
        (fun run hrun => ampersand_not_mem_parts (hcall ▸ hrun))
        (fun run hrun => ampersand_not_mem_parts (hother ▸ hrun)) (Option.some.inj h)

/-- The segments and the parameters of a call can be told from the path and the query. -/
theorem shown_inj {client : Client} {call other : RemoteCall} {url otherUrl : Url}
    (hletter : 'c' ∈ client.baseUrl.toList) (hfragment : '#' ∉ client.baseUrl.toList)
    (hcall : ∀ id ∈ call.urlIds, IsUrlId id) (hother : ∀ id ∈ other.urlIds, IsUrlId id)
    (hurl : client.url? call = some url) (hotherUrl : client.url? other = some otherUrl)
    (hpath : url.path = otherUrl.path) (hquery : url.query = otherUrl.query) :
    segments call = segments other ∧ parts call = parts other := by
  obtain ⟨parsed, hparsed, hshown, hread⟩ := url?_eq_some hurl
  obtain ⟨otherParsed, hotherParsed, hotherShown, hotherRead⟩ := url?_eq_some hotherUrl
  rw [hshown, hotherShown] at hpath
  by_cases hmark : '?' ∈ client.baseUrl.toList
  · obtain ⟨path, before, hends⟩ := Url.query_of_front hletter hmark hfragment
    obtain ⟨-, hfound⟩ := hends _ _ (arePlain_segments hcall) hparsed
    obtain ⟨-, hotherFound⟩ := hends _ _ (arePlain_segments hother) hotherParsed
    rw [encode_below hcall] at hfound
    rw [encode_below hother] at hotherFound
    rw [hread (by simp [hfound, Url.below]), hotherRead (by simp [hotherFound, Url.below]), hfound,
      hotherFound] at hquery
    have hjoin := Option.some.inj hquery
    rw [join_append_cons, join_append_cons, List.append_cancel_left_eq] at hjoin
    exact join_below_inj hcall hother hjoin
  · obtain ⟨before, hends⟩ := Url.path_of_front hletter hmark hfragment
    obtain ⟨hnone, hfound⟩ := hends _ _ (arePlain_segments hcall) hparsed
    obtain ⟨hotherNone, hotherFound⟩ := hends _ _ (arePlain_segments hother) hotherParsed
    rw [hread (by simp [hnone]), hotherRead (by simp [hotherNone]), hnone, hotherNone] at hquery
    rw [hfound, hotherFound, List.append_cancel_left_eq] at hpath
    exact ⟨segments_inj hcall hother hpath, queryWith_none_inj hquery⟩

/-! ### Reading a request back -/

/-- The target at the beginning of a path, and the segments behind it. -/
def targetOf? : List String → Option (Target × List String)
  | "clusters" :: id :: "node_pools" :: pool :: rest => some (.nodePool id pool, rest)
  | "clusters" :: id :: rest => some (.cluster id, rest)
  | _ => none

/-- The number behind the equals sign of a parameter. -/
def numberOf (part : List Char) : Nat := ofDigits ((cutAt '=' part).2.getD [])

def draftOf? : Json → Option PolicyDraft
  | .object [(_, .string kind), (_, .string version)] =>
    some { scheduleKind := if kind = "manual" then .manual else .automatic, version }
  | _ => none

def gateIdOf? : Json → Option String
  | .object [(_, .object [(_, .string id)])] => some id
  | _ => none

/-- The call that concerns a target, by the segments behind it and the rest of the request. -/
def targetCall? (target : Target) (parts : List (List Char)) (body : Option Json) :
    Method → List String → Option RemoteCall
  | .get, [] => some (.currentVersion target)
  | .get, ["upgrade_policies"] =>
    match parts with
    | [page, size] => some (.listPolicies target (numberOf page) (numberOf size))
    | _ => none
  | .get, "upgrade_policies" :: policyId :: _ => some (.policyStatus target policyId)
  | .delete, ["upgrade_policies", policyId] => some (.deletePolicy target policyId)
  | .post, ["upgrade_policies"] =>
    (body.bind draftOf?).map (if parts.isEmpty then .createPolicy target else .dryRunPolicy target)
  | .post, ["gate_agreements"] => (body.bind gateIdOf?).map (.agreeToGate target.clusterId)
  | _, _ => none

/-- The call that a request makes. -/
def callOf? (method : Method) (segments : List String) (parts : List (List Char))
    (body : Option Json) : Option RemoteCall :=
  match segments with
  | ["versions", id] => some (.versionRecord id)
  | _ => (targetOf? segments).bind fun found => targetCall? found.1 parts body method found.2

theorem numberOf_partOf (name : String) (h : '=' ∉ name.toList) (n : Nat) :
    numberOf (partOf (name, natText n)) = n := by
  rw [numberOf, partOf, cutAt_append h, Option.getD_some, natText, String.toList_ofList,
    ofDigits_digits]

theorem draftOf?_ofDraft (draft : PolicyDraft) : draftOf? (Wire.ofDraft draft) = some draft := by
  obtain ⟨kind, version⟩ := draft
  cases kind <;> rfl

/-- What stands behind a target is no node pool, so that the target itself is read. -/
theorem callOf?_target {target : Target} {rest : List String}
    (h : ∀ more, rest ≠ "node_pools" :: more) (method : Method) (parts : List (List Char))
    (body : Option Json) :
    callOf? method (targetSegments target ++ rest) parts body =
      targetCall? target parts body method rest := by
  have htarget : targetOf? (targetSegments target ++ rest) = some (target, rest) := by
    cases target with
    | nodePool => rfl
    | cluster id =>
      rw [targetSegments, List.cons_append, List.cons_append, List.nil_append, targetOf?]
      rintro pool more rfl
      exact h _ rfl
  rw [callOf?, htarget, Option.bind_some]
  intro id
  cases target <;> simp [targetSegments]

/-- Every call is read back from what its request shows. -/
theorem callOf?_eq (call : RemoteCall) :
    callOf? (route call).1 (segments call) (parts call) (body? call) = some call := by
  cases call with
  | listPolicies target page size =>
    have hpage := numberOf_partOf "page" (by decide) page
    have hsize := numberOf_partOf "size" (by decide) size
    refine (callOf?_target (by simp) _ _ _).trans ?_
    simp [targetCall?, parts, parameters, route, hpage, hsize]
  | policyStatus target policyId =>
    refine (callOf?_target (by simp) _ _ _).trans ?_
    cases target <;> rfl
  | deletePolicy target policyId => exact callOf?_target (by simp) _ _ _
  | createPolicy target draft =>
    refine (callOf?_target (by simp) _ _ _).trans ?_
    simp [targetCall?, parts, parameters, route, body?, draftOf?_ofDraft]
  | dryRunPolicy target draft =>
    refine (callOf?_target (by simp) _ _ _).trans ?_
    simp [targetCall?, parts, parameters, route, body?, draftOf?_ofDraft]
  | agreeToGate clusterId gateId => rfl
  | versionRecord id => rfl
  | currentVersion target =>
    have hread : callOf? .get (targetSegments target ++ []) [] none =
        some (.currentVersion target) := callOf?_target (by simp) _ _ _
    rwa [List.append_nil] at hread

/-- A body can be told from its text. -/
theorem body?_inj {call other : RemoteCall}
    (h : (body? call).map Json.write = (body? other).map Json.write) :
    body? call = body? other := by
  have hread (call : RemoteCall) :
      ((body? call).map Json.write).bind Json.parse? = body? call := by
    cases hbody : body? call with
    | none => rfl
    | some json =>
      have htextual : json.isTextual = true := by
        cases call <;> cases hbody <;> rfl
      rw [Option.map_some, Option.bind_some, Json.parse?_write htextual]
  rw [← hread call, h, hread other]

end Client

/-! ### Requests -/

/-- What two requests have in common if a server cannot tell them apart. -/
structure Request.SendsSame (request other : Request) : Prop where
  method : request.method = other.method
  path : request.url.path = other.url.path
  query : request.url.query = other.url.query
  body : request.body.map Json.write = other.body.map Json.write

namespace Client

/-- Calls whose ids can stand in a URL make the same request only if they are the same call. -/
def TellsCallsApart (client : Client) : Prop :=
  ∀ (call other : RemoteCall) (request otherRequest : Request),
    (∀ id ∈ call.urlIds, IsUrlId id) → (∀ id ∈ other.urlIds, IsUrlId id) →
      client.request call = .ok request → client.request other = .ok otherRequest →
        request.SendsSame otherRequest → call = other

/-- **Requests identify the call.** Not so if the address has a fragment: what stands behind it is
not sent. -/
theorem tellsCallsApart {address token : String} (hfragment : '#' ∉ address.toList) :
    (ofAddress address token).TellsCallsApart := by
  intro call other request otherRequest hcall hother hrequest hotherRequest hsame
  have hnone : '#' ∉ (ofAddress address token).baseUrl.toList := fun hmem =>
    (mem_of_mem_baseUrl hmem).elim hfragment (by decide)
  obtain ⟨url, hurl, rfl⟩ := request_eq_ok hrequest
  obtain ⟨otherUrl, hotherUrl, rfl⟩ := request_eq_ok hotherRequest
  obtain ⟨hsegments, hparts⟩ :=
    shown_inj letter_mem_baseUrl hnone hcall hother hurl hotherUrl hsame.path hsame.query
  have hmethod : (route call).1 = (route other).1 := hsame.method
  have hbody : body? call = body? other := body?_inj hsame.body
  apply Option.some.inj
  calc some call
    _ = callOf? (route call).1 (segments call) (parts call) (body? call) := (callOf?_eq call).symm
    _ = callOf? (route other).1 (segments other) (parts other) (body? other) := by
      rw [hmethod, hsegments, hparts, hbody]
    _ = some other := callOf?_eq other

theorem request_of_url? {client : Client} {call : RemoteCall} {url : Url}
    (hurl : client.url? call = some url) (htoken : isHeaderText client.token = true)
    (hsendable : url.isSendable = true) :
    client.request call = .ok (client.requestTo call url) := by
  simp [Client.request, hurl, htoken, hsendable]

theorem url_of_request {client : Client} {call : RemoteCall} {request : Request} {url : Url}
    (h : client.request call = .ok request) (hurl : client.url? call = some url) :
    request.url = url := by
  obtain ⟨shown, hshown, rfl⟩ := request_eq_ok h
  exact Option.some.inj (hshown.symm.trans hurl)

theorem sendsSame_requestTo (client : Client) {call other : RemoteCall} {url otherUrl : Url}
    (hmethod : (route call).1 = (route other).1) (hpath : url.path = otherUrl.path)
    (hquery : url.query = otherUrl.query) (hbody : body? call = body? other) :
    (client.requestTo call url).SendsSame (client.requestTo other otherUrl) where
  method := hmethod
  path := hpath
  query := hquery
  body := congrArg (Option.map Json.write) hbody

/-- Ids that are words of the paths themselves, behind an address with a query. -/
theorem tellsCallsApart_routeWords :
    let client := ofAddress "http://127.0.0.1/?mirror" "secret"
    let call := RemoteCall.policyStatus (.cluster "node_pools") "state"
    let other := RemoteCall.policyStatus (.nodePool "node_pools" "upgrade_policies") "state"
    ∃ request otherRequest, client.request call = .ok request ∧
      client.request other = .ok otherRequest ∧ request.url.path = otherRequest.url.path ∧
      ¬request.SendsSame otherRequest := by
  intro client call other
  let url (query : String) : Url :=
    { scheme := .http
      host := .address4 ⟨0x7f000001⟩
      path := ['/']
      query := some ("mirror/api/clusters_mgmt/v1/clusters/node_pools/" ++ query).toList }
  let first := url "upgrade_policies/state/state"
  let second := url "node_pools/upgrade_policies/upgrade_policies/state"
  have hcall : client.url? call = some first := by
    rw [url?_eq]
    decide +kernel
  have hother : client.url? other = some second := by
    rw [url?_eq]
    decide +kernel
  have hsendable : ∀ url ∈ [first, second], url.isSendable = true := by
    simp only [Url.isSendable, Url.text, String.length_ofList]
    decide +kernel
  obtain ⟨request, hrequest⟩ : ∃ request, client.request call = .ok request :=
    ⟨_, request_of_url? hcall (by decide) (hsendable first (by simp))⟩
  obtain ⟨otherRequest, hotherRequest⟩ : ∃ request, client.request other = .ok request :=
    ⟨_, request_of_url? hother (by decide) (hsendable second (by simp))⟩
  have hpath : request.url.path = otherRequest.url.path := by
    rw [url_of_request hrequest hcall, url_of_request hotherRequest hother]
  refine ⟨request, otherRequest, hrequest, hotherRequest, hpath, fun hsame => ?_⟩
  have heq : call = other :=
    tellsCallsApart (by decide) call other _ _ (by decide) (by decide) hrequest hotherRequest hsame
  exact absurd heq (by decide)

/-- Behind a fragment every lookup of a version sends the same request. -/
theorem not_tellsCallsApart_behindFragment :
    ¬(ofAddress "http://127.0.0.1/#" "secret").TellsCallsApart := by
  intro hapart
  let client := ofAddress "http://127.0.0.1/#" "secret"
  let url (id : String) : Url :=
    { scheme := .http
      host := .address4 ⟨0x7f000001⟩
      path := ['/']
      fragment := some ("/api/clusters_mgmt/v1/versions/" ++ id).toList }
  have hfirst : client.url? (.versionRecord "4.14.1") = some (url "4.14.1") := by
    rw [url?_eq]
    decide +kernel
  have hsecond : client.url? (.versionRecord "4.14.2") = some (url "4.14.2") := by
    rw [url?_eq]
    decide +kernel
  have hsendable : ∀ id ∈ ["4.14.1", "4.14.2"], (url id).isSendable = true := by
    simp only [Url.isSendable, Url.text, String.length_ofList]
    decide +kernel
  have heq : RemoteCall.versionRecord "4.14.1" = .versionRecord "4.14.2" :=
    hapart _ _ _ _ (by decide) (by decide)
      (request_of_url? hfirst (by decide) (hsendable "4.14.1" (by simp)))
      (request_of_url? hsecond (by decide) (hsendable "4.14.2" (by simp)))
      (sendsSame_requestTo client rfl rfl rfl rfl)
  exact absurd heq (by decide)

end Client

end Http

end ClusterUpgrade
