import BurnLens.Proxy.UpstreamModel

/-! # The model that the proxy takes a request to name

The hooks of the providers look for the model in places of their own: Google's splits the whole
URL, its query included, and Azure's looks into the body first.  `extracted_iff` says for which
requests the extracted model is the one that the provider reads.
-/

namespace BurnLens.Proxy

open Library Providers

/-- The path of a URL behind a host: empty, or from a slash or the mark of the query on. -/
def Rooted (path : Str) : Prop := ∀ c tail, path = c :: tail → c = '/' ∨ c = '?'

def googleName (rest : Str) : Str := rest.takeWhile fun c => !googleModelInPath.stops c

def orUnknown (name : Str) : Str := if name = [] then "unknown" else name

/-- The body names the model for the proxy, or names none and the model is called "unknown". -/
def bodyNames (body : Body) (name : Str) : Prop :=
  jsonModel body = some name ∨
    ((Fields.getD body.fields "model" .null).truthy = false ∧ name = "unknown".toList)

/-- In the path, the segment stands unescaped and ends in front of the query.  A path without
    one names what "/models/" in the query names, or else what the body names. -/
def GoogleReadsAlike (upstream : Upstream) (environ : Environ) (path : Str) (body : Body) : Prop :=
  match afterFirst "/models/" (before '?' path) with
  | some rest =>
    unquote (googleName rest) = [] ∨
      (unquote (googleName rest) = googleName rest ∧
        ((∃ c ∈ rest, googleModelInPath.stops c = true) ∨ '?' ∉ path))
  | none => ∀ read, upstreamModel upstream .google environ path body = some read →
    match (afterFirst "?" path).bind (afterFirst "/models/") with
    | some rest => orUnknown (googleName rest) = read
    | none => bodyNames body read

/-- What a body that is no JSON names in a form stands for "unknown", as the proxy calls it. -/
def FormUnknown (upstream : Upstream) (provider : Provider) (environ : Environ) (body : Body) : Prop :=
  body.json = none → ∀ name, bodyModel upstream body = some name →
    standsFor provider environ name = "unknown".toList

/-- The body of a request to a deployment names a deployment of the same model, or none where
    the one in the path stands for its own decoding. -/
def AzureReadsAlike (upstream : Upstream) (environ : Environ) (path : Str) (body : Body) : Prop :=
  match pathSegment .azure path with
  | some deployment => unquote deployment ≠ [] →
    ∃ name, (jsonModel body = some name ∨
        ((Fields.getD body.fields "model" .null).truthy = false ∧ name = deployment)) ∧
      canonicalModel environ name = canonicalModel environ (unquote deployment)
  | none => FormUnknown upstream .azure environ body

def ReadsAlike (upstream : Upstream) (provider : Provider) (environ : Environ) (path : Str)
    (body : Body) : Prop :=
  match provider with
  | .google => GoogleReadsAlike upstream environ path body
  | .azure => AzureReadsAlike upstream environ path body
  | .bedrock => True
  | provider => FormUnknown upstream provider environ body

theorem jsonModel_eq_some {body : Body} {name : Str} :
    jsonModel body = some name ↔ Fields.getD body.fields "model" .null = .str name ∧ name ≠ [] := by
  simp only [jsonModel, Fields.getD]
  cases Fields.get? body.fields "model" with
  | none => simp
  | some value =>
    cases value with
    | str model =>
      cases model with
      | nil => simp
      | cons c model =>
        simp only [Option.some.injEq, Option.getD_some, Json.str.injEq]
        exact ⟨fun same => ⟨same, same ▸ List.cons_ne_nil c model⟩, And.left⟩
    | _ => simp

theorem orElse_str {value : Json} {other name : Str} :
    value.orElse (.str other) = .str name ↔
      (value = .str name ∧ name ≠ []) ∨ (value.truthy = false ∧ name = other) := by
  simp only [Json.orElse]
  cases truth : value.truthy with
  | false =>
    have absent : ¬(value = .str name ∧ name ≠ []) := by
      rintro ⟨rfl, nonempty⟩
      exact nonempty (List.isEmpty_iff.mp (by simpa [Json.truthy] using truth))
    simp only [Bool.false_eq_true, if_false, absent, false_or, true_and, Json.str.injEq]
    exact eq_comm
  | true =>
    simp only [if_true, Bool.true_eq_false, false_and, or_false]
    refine ⟨fun same => ⟨same, ?_⟩, And.left⟩
    rintro rfl
    rw [same] at truth
    cases truth

theorem body_orElse_unknown {body : Body} {name : Str} :
    (Fields.getD body.fields "model" .null).orElse (.str "unknown") = .str name ↔
      bodyNames body name := by
  rw [orElse_str, bodyNames, jsonModel_eq_some]

theorem str_orElse_unknown (name : Str) :
    (Json.str name).orElse (.str "unknown") = .str (orUnknown name) := by
  cases name <;> rfl

/-! ## Paths -/

theorem upstreamPath_rooted {provider : Provider} {request : Request} {path : Str}
    (stripped : upstreamPath provider request = .ok path) : Rooted path := by
  simp only [upstreamPath, bind_eq_ok, stripProxyPrefix] at stripped
  obtain ⟨rest, legal, same⟩ := stripped
  split at legal
  · next shape =>
    cases legal
    cases same
    intro c tail same
    obtain empty | starts := shape
    · rw [empty] at same
      split at same <;> cases same
      exact .inr rfl
    · obtain ⟨rest, split⟩ := startsWith_iff.mp starts
      rw [split] at same
      split at same <;> cases same <;> exact .inl rfl
  · cases legal

theorem Rooted.before {path : Str} (rooted : Rooted path) : Rooted (before '?' path) := by
  intro c tail same
  cases path with
  | nil => cases same
  | cons d path =>
    simp only [Library.before, List.takeWhile_cons] at same
    split at same
    · cases same; exact rooted c path rfl
    · cases same

theorem Rooted.nextPart {path : Str} (rooted : Rooted path) (name : Str) (nonempty : name ≠ [])
    (clean : '/' ∉ name ∧ '?' ∉ name) :
    nextPart name (path.splitOn '/') =
      (afterFirst ('/' :: (name ++ ['/'])) path).map (Library.before '/') := by
  refine nextPart_splitOn clean.1 path fun rest same => ?_
  cases name with
  | nil => exact nonempty rfl
  | cons c name =>
    obtain rfl | rfl := rooted c _ same
    · exact clean.1 List.mem_cons_self
    · exact clean.2 List.mem_cons_self

theorem query_cases (path : Str) :
    ('?' ∉ path ∧ before '?' path = path ∧ afterFirst "?" path = none) ∨
      ∃ query, path = before '?' path ++ '?' :: query ∧ afterFirst "?" path = some query := by
  by_cases mark : '?' ∈ path
  · right
    obtain ⟨front, query, rfl, absent⟩ := List.eq_append_cons_of_mem mark
    have cut : before '?' (front ++ '?' :: query) = front := by
      rw [before_append_of_not_mem _ absent]
      simp [before]
    refine ⟨query, by rw [cut], ?_⟩
    have found : afterFirst ['?'] (front ++ '?' :: query) = afterFirst ['?'] ('?' :: query) :=
      afterFirst_skip _ absent
    simpa [afterFirst, startsWith] using found
  · left
    refine ⟨mark, by simpa [before] using before_append_of_not_mem [] mark, ?_⟩
    by_contra found
    obtain ⟨rest, found⟩ := Option.ne_none_iff_exists'.mp found
    exact mark (mem_of_afterFirst found (by decide))

/-! ## Google -/

theorem extractModelGoogle_eq {fields : Fields} {path : Str} (rooted : Rooted path) :
    extractModelGoogle fields path =
      match afterFirst "/models/" path with
      | some rest => .str (googleName rest)
      | none => fields.getD "model" .null := by
  have parts := rooted.nextPart "models" (by decide) (by decide)
  have name : ∀ rest : Str, before ':' (before '/' rest) = googleName rest := by
    intro rest
    simp only [before, List.takeWhile_takeWhile, googleName, googleModelInPath]
    congr 1
    funext c
    simp
  simp only [extractModelGoogle]
  rw [show nextPart "models".toList (path.splitOn '/') =
    (afterFirst "/models/".toList path).map (before '/') from parts]
  cases afterFirst "/models/" path with
  | none => rfl
  | some rest => simp [name]

theorem googleName_of_stop {rest : Str} (back : Str)
    (stopped : ∃ c ∈ rest, googleModelInPath.stops c = true) :
    googleName (rest ++ back) = googleName rest :=
  takeWhile_append_of_stop back stopped

theorem googleName_overrun {rest : Str} (query : Str)
    (unstopped : ¬∃ c ∈ rest, googleModelInPath.stops c = true) :
    googleName rest = rest ∧
      googleName (rest ++ '?' :: query) = rest ++ '?' :: googleName query := by
  have passes : ∀ c ∈ rest, (!googleModelInPath.stops c) = true := by
    intro c member
    by_contra stop
    exact unstopped ⟨c, member, by simpa using stop⟩
  constructor
  · exact List.takeWhile_eq_self_iff.mpr passes
  · rw [googleName, List.takeWhile_append_of_pos passes]
    rfl

theorem orUnknown_of_ne {name : Str} (nonempty : name ≠ []) : orUnknown name = name := if_neg nonempty

/-- The name up to the end of the URL is the decoded segment of the path where that stands
    unescaped and ends in front of the query. -/
theorem google_name_iff {rest back : Str} (query : back = [] ∨ ∃ query, back = '?' :: query)
    (nonempty : unquote (googleName rest) ≠ []) :
    orUnknown (googleName (rest ++ back)) = unquote (googleName rest) ↔
      unquote (googleName rest) = googleName rest ∧
        ((∃ c ∈ rest, googleModelInPath.stops c = true) ∨ back = []) := by
  have segment : googleName rest ≠ [] := by
    intro empty
    rw [empty] at nonempty
    exact nonempty rfl
  by_cases stopped : ∃ c ∈ rest, googleModelInPath.stops c = true
  · rw [googleName_of_stop back stopped, orUnknown_of_ne segment]
    simp only [stopped, true_or, and_true]
    exact eq_comm
  · obtain rfl | ⟨query, rfl⟩ := query
    · rw [List.append_nil, orUnknown_of_ne segment]
      simp only [or_true, and_true]
      exact eq_comm
    · obtain ⟨whole, longer⟩ := googleName_overrun query stopped
      have differs : orUnknown (googleName (rest ++ '?' :: query)) ≠ unquote (googleName rest) := by
        intro same
        have decoded := length_unquote_le rest
        -- decoding never makes a text longer, and the overrun adds at least the mark
        have lengths := congrArg List.length same
        rw [longer, orUnknown_of_ne (by simp), whole, List.length_append, List.length_cons] at lengths
        omega
      simp [differs, stopped]

theorem google_extracted_iff {upstream : Upstream} {environ : Environ} {path : Str} {body : Body} (rooted : Rooted path) :
    (∀ read, upstreamModel upstream .google environ path body = some read →
      (extractModelGoogle body.fields path).orElse (.str "unknown") = .str read) ↔
      GoogleReadsAlike upstream environ path body := by
  rw [extractModelGoogle_eq rooted, GoogleReadsAlike]
  cases inPath : afterFirst "/models/" (before '?' path) with
  | some rest =>
    have reads : upstreamModel upstream .google environ path body = named (unquote (googleName rest)) := by
      have segment : pathSegment .google path = some (googleName rest) := by
        rw [pathSegment, readAfter, inPath]; rfl
      rw [upstreamModel, segment, standsFor_of_ne (by decide)]
      exact Option.map_id_apply
    rw [reads]
    by_cases empty : unquote (googleName rest) = []
    · simp [named, empty]
    · obtain ⟨absent, whole, -⟩ | ⟨query, whole, -⟩ := query_cases path
      · rw [whole] at inPath
        have name := google_name_iff (.inl rfl) empty
        rw [List.append_nil] at name
        simp only [inPath, named, empty, if_false, Option.some.injEq, forall_eq', str_orElse_unknown,
          Json.str.injEq, name, absent, not_false_eq_true, false_or, or_true]
      · have found : afterFirst "/models/" path = some (rest ++ '?' :: query) := by
          rw [whole]; exact afterFirst_append _ inPath
        have present : '?' ∈ path := by rw [whole]; simp
        have name := google_name_iff (.inr ⟨query, rfl⟩) empty
        simp only [found, named, empty, if_false, Option.some.injEq, forall_eq', str_orElse_unknown,
          Json.str.injEq, name, present, List.cons_ne_nil, not_true_eq_false, false_or]
  | none =>
    have inQuery : afterFirst "/models/" path =
        (afterFirst "?" path).bind (afterFirst "/models/") := by
      obtain ⟨-, whole, unmarked⟩ | ⟨query, whole, found⟩ := query_cases path
      · rw [unmarked, ← whole, inPath]; rfl
      · rw [found]
        rw [whole]
        exact afterFirst_append_cons _ (by decide) inPath
    rw [inQuery]
    -- without a marker in the path, the proxy finds the one in the query
    refine forall_congr' fun read => imp_congr_right fun _ => ?_
    cases (afterFirst "?" path).bind (afterFirst "/models/") with
    | none => exact body_orElse_unknown
    | some rest => simp only [str_orElse_unknown, Json.str.injEq]

/-! ## Azure -/

theorem canonicalModel_ne_nil {environ : Environ} {name : Str} (nonempty : name ≠ []) :
    canonicalModel environ name ≠ [] := by
  simp only [canonicalModel]
  split
  · next model found =>
    obtain ⟨front, back, split, -⟩ := List.lookup_eq_some_iff.mp found
    have member : (name, model) ∈ deploymentMap environ := by
      rw [← List.mem_reverse, split]; simp
    obtain ⟨pair, -, kept⟩ := List.mem_filterMap.mp member
    simp only at kept
    split at kept
    · split at kept
      · next pair => cases kept; exact pair.2
      · cases kept
    · cases kept
  · cases found : azureAliases.lookup name with
    | none => exact nonempty
    | some model =>
      have listed : ∀ pair ∈ azureAliases, pair.2 ≠ [] := by decide
      obtain ⟨front, back, split, -⟩ := List.lookup_eq_some_iff.mp found
      exact listed (name, model) (by rw [split]; simp)

theorem azure_part {path : Str} (rooted : Rooted path) :
    nextPart "deployments" ((before '?' path).splitOn '/') = pathSegment .azure path := by
  have part := rooted.before.nextPart "deployments" (by decide) (by decide)
  refine part.trans ?_
  rw [pathSegment, readAfter]
  congr 1
  funext rest
  simp [before]

/-- What the Azure hook takes for the deployment: the body's "model", or else the path. -/
def azureDeployment (fields : Fields) (path : Str) : Json :=
  (fields.getD "model" .null).orElse (((pathSegment .azure path).map Json.str).getD .null)

theorem azure_extracted {environ : Environ} {fields : Fields} {path : Str} {extracted : Json}
    (rooted : Rooted path) (ok : extractModelAzure environ fields path = .ok extracted) {read : Str} :
    extracted.orElse (.str "unknown") = .str read ↔
      (∃ name, (azureDeployment fields path = .str name ∧ name ≠ []) ∧
        canonicalModel environ name = read) ∨
      ((azureDeployment fields path).truthy = false ∧ read = "unknown".toList) := by
  simp only [extractModelAzure, azure_part rooted] at ok
  rw [← azureDeployment] at ok
  generalize azureDeployment fields path = deployment at ok ⊢
  cases truth : deployment.truthy with
  | false =>
    have unnamed : ∀ name, ¬(deployment = .str name ∧ name ≠ []) := by
      rintro name ⟨rfl, nonempty⟩
      exact nonempty (List.isEmpty_iff.mp (by simpa [Json.truthy] using truth))
    rw [truth] at ok
    cases ok
    rw [orElse_str]
    simp [unnamed, Json.truthy]
  | true =>
    rw [truth, if_pos rfl] at ok
    cases deployment with
    | str name =>
      cases ok
      have nonempty : name ≠ [] := by
        rintro rfl; cases truth
      rw [str_orElse_unknown, orUnknown_of_ne (canonicalModel_ne_nil nonempty)]
      simp [nonempty]
    -- a list or an object raises as a dictionary key, so the request is not forwarded
    | arr items => cases ok
    | obj fields => cases ok
    | _ =>
      cases ok
      simp [Json.orElse, truth]

theorem azureDeployment_of_body {fields : Fields} {path name : Str}
    (value : Fields.getD fields "model" .null = .str name) (nonempty : name ≠ []) :
    azureDeployment fields path = .str name := by
  rw [azureDeployment, value, Json.orElse, if_pos]
  cases name with
  | nil => exact absurd rfl nonempty
  | cons c name => rfl

theorem azure_extracted_iff {upstream : Upstream} {environ : Environ} {path : Str} {body : Body}
    {extracted : Json} (rooted : Rooted path)
    (ok : extractModelAzure environ body.fields path = .ok extracted) :
    (∀ read, upstreamModel upstream .azure environ path body = some read →
      extracted.orElse (.str "unknown") = .str read) ↔ AzureReadsAlike upstream environ path body := by
  rw [AzureReadsAlike]
  cases segment : pathSegment .azure path with
  | none =>
    have reads : upstreamModel upstream .azure environ path body =
        (bodyModel upstream body).map (standsFor .azure environ) := by
      rw [upstreamModel, segment]
      exact if_neg (by decide)
    simp only [reads, Option.map_eq_some_iff, FormUnknown]
    cases decoded : body.json with
    | some value =>
      -- both read the "model" of the body
      refine iff_of_true (fun read reads => ?_) fun absent => absurd absent (Option.some_ne_none _)
      obtain ⟨name, names, same⟩ := reads
      rw [bodyModel, decoded] at names
      obtain ⟨value, nonempty⟩ := jsonModel_eq_some.mp names
      exact (azure_extracted rooted ok).mpr
        (.inl ⟨name, ⟨azureDeployment_of_body value nonempty, nonempty⟩, same⟩)
    | none =>
      have absent : azureDeployment body.fields path = .null := by
        rw [azureDeployment, segment, Body.fields, decoded]
        rfl
      simp only [azure_extracted rooted ok, absent, reduceCtorEq, false_and, exists_false, false_or,
        Json.truthy, true_and, true_imp_iff, forall_exists_index, and_imp]
      exact ⟨fun all name names => all _ name names rfl, fun all read name names same =>
        same.symm.trans (all name names)⟩
  | some deployment =>
    by_cases empty : unquote deployment = []
    · simp [upstreamModel, segment, named, empty]
    · have nonempty : deployment ≠ [] := by
        rintro rfl; exact empty rfl
      have names : ∀ name, (azureDeployment body.fields path = .str name ∧ name ≠ []) ↔
          (jsonModel body = some name ∨
            ((Fields.getD body.fields "model" .null).truthy = false ∧ name = deployment)) := by
        intro name
        simp only [azureDeployment, segment, Option.map_some, Option.getD_some, orElse_str,
          jsonModel_eq_some]
        constructor
        · exact And.left
        · rintro (named | ⟨absent, rfl⟩)
          · exact ⟨.inl named, named.2⟩
          · exact ⟨.inr ⟨absent, rfl⟩, nonempty⟩
      have truth : (azureDeployment body.fields path).truthy = true := by
        simp only [azureDeployment, segment, Option.map_some, Option.getD_some, Json.orElse]
        split
        · assumption
        · simpa [Json.truthy] using nonempty
      have reads : upstreamModel upstream .azure environ path body =
          some (canonicalModel environ (unquote deployment)) := by
        simp [upstreamModel, segment, named, empty, standsFor]
      simp only [reads, Option.some.injEq, forall_eq', azure_extracted rooted ok, names, truth,
        Bool.true_eq_false, false_and, or_false, ne_eq, empty, not_false_eq_true, true_imp_iff]

/-! ## Bedrock and the body -/

theorem bedrock_part {path : Str} (rooted : Rooted path) :
    nextPart "model" ((before '?' path).splitOn '/') = pathSegment .bedrock path := by
  have part := rooted.before.nextPart "model" (by decide) (by decide)
  refine part.trans ?_
  rw [pathSegment, readAfter]
  congr 1
  funext rest
  simp [before, bedrockModelInPath]

theorem bedrock_extracted {upstream : Upstream} {environ : Environ} {path read : Str} {body : Body} (rooted : Rooted path)
    (reads : upstreamModel upstream .bedrock environ path body = some read) :
    (extractModelBedrock body.fields path).orElse (.str "unknown") = .str read := by
  rw [upstreamModel] at reads
  rw [extractModelBedrock, bedrock_part rooted]
  cases segment : pathSegment .bedrock path with
  | none => rw [segment] at reads; cases reads
  | some segment' =>
    simp only [segment, standsFor_of_ne (show Provider.bedrock ≠ .azure by decide), Option.map_id,
      id_eq, named] at reads
    split at reads
    · cases reads
    · next nonempty =>
      cases reads
      rw [str_orElse_unknown, orUnknown_of_ne nonempty]

theorem body_extracted_iff {upstream : Upstream} {provider : Provider} {environ : Environ} {path : Str}
    {body : Body} (bodyOnly : pathSegment provider path = none) (other : provider ≠ .azure)
    (inBody : provider ≠ .bedrock) :
    (∀ read, upstreamModel upstream provider environ path body = some read →
      (Fields.getD body.fields "model" .null).orElse (.str "unknown") = .str read) ↔
      FormUnknown upstream provider environ body := by
  have reads : upstreamModel upstream provider environ path body = bodyModel upstream body := by
    rw [upstreamModel, bodyOnly, standsFor_of_ne other]
    exact (if_neg inBody).trans Option.map_id_apply
  simp only [reads, FormUnknown, standsFor_of_ne other, id_eq]
  cases decoded : body.json with
  | some value =>
    refine iff_of_true (fun read reads => ?_) fun absent => absurd absent (Option.some_ne_none _)
    rw [bodyModel, decoded] at reads
    exact body_orElse_unknown.mpr (.inl reads)
  | none =>
    have unknown : (Fields.getD body.fields "model" .null).orElse (.str "unknown") =
        .str "unknown" := by
      rw [Body.fields, decoded]
      rfl
    simp only [unknown, Json.str.injEq, true_imp_iff]
    exact forall_congr' fun read => imp_congr_right fun _ => eq_comm

/-- The extracted model is the one that the provider reads, whatever it reads, exactly where both
    look for it alike. -/
theorem extracted_iff {upstream : Upstream} {provider : Provider} {environ : Environ} {path : Str}
    {body : Body} {extracted : Json} (rooted : Rooted path)
    (ok : provider.extractModel environ body.fields path = .ok extracted) :
    (∀ read, upstreamModel upstream provider environ path body = some read →
      extracted.orElse (.str "unknown") = .str read) ↔
      ReadsAlike upstream provider environ path body := by
  cases provider with
  | google => cases ok; exact google_extracted_iff rooted
  | azure => exact azure_extracted_iff rooted ok
  | bedrock => cases ok; exact iff_of_true (fun read => bedrock_extracted rooted) trivial
  | _ => cases ok; exact body_extracted_iff rfl (by decide) (by decide)

end BurnLens.Proxy
