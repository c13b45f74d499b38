import Rowgate.Proofs.Ranking
import Rowgate.Sample.Routes
/-
The catalog of a service and what its router answers.

Catalog and router are two lists that grow side by side, and neither looks at the other. What keeps
them together is that the router refuses a method that a path has already: no two entries of the
catalog have the same method and path, so the first entry with them is the only one, and the endpoint
that the router has for them is that of the same registration.

`Router.mount_cases` says what mounting does. From it, one step keeps what is registered
(`Service.Registered.mount`), and so does a run of registrations (`Service.Registered.mountAll`).
-/
set_option autoImplicit false

namespace Rowgate

namespace Http

variable {m : Type → Type}

/-! ## Resources -/

namespace Resource

theorem mount_eq_ok {resource resource' : Resource m} {method : Method} {endpoint : Endpoint m}
    (h : resource.mount method endpoint = .ok resource') :
    resource.endpoint? method = none ∧
      resource' = { resource with endpoints := resource.endpoints ++ [(method, endpoint)] } := by
  rw [mount] at h
  split at h
  · cases h
  · next hnone =>
    cases h
    exact ⟨by simpa using hnone, rfl⟩

/-- Behind what a resource answers already, one more endpoint answers its own method. -/
theorem endpoint?_append (resource : Resource m) (method method' : Method)
    (endpoint : Endpoint m) :
    ({ resource with endpoints := resource.endpoints ++ [(method, endpoint)] } :
        Resource m).endpoint? method' =
      (resource.endpoint? method').or (if method = method' then some endpoint else none) := by
  rw [endpoint?, endpoint?, List.find?_append]
  cases resource.endpoints.find? (·.1 == method') with
  | some found => rfl
  | none => by_cases hmethod : method = method' <;> simp [hmethod]

/-- A request with the name of a method is answered by the endpoint of the method. -/
theorem respond_of_endpoint [Monad m] {resource : Resource m} {method : Method}
    {endpoint : Endpoint m} (h : resource.endpoint? method = some endpoint) (captures : Captures)
    {request : Request} (hmethod : request.method = method.name) :
    resource.respond captures request = endpoint captures request := by
  have hhead : request.method ≠ "HEAD" := by
    rw [hmethod]
    cases method <;> decide
  have hname : Method.ofName? request.method = some method := by
    rw [hmethod]
    cases method <;> decide
  simp only [respond, if_neg hhead, hname, Option.bind_some, h]

end Resource

/-! ## Mounting on a router -/

namespace Router

theorem mountExisting_eq_none {path : String} {method : Method} {endpoint : Endpoint m}
    {router : Router m} (h : mountExisting path method endpoint router = none) :
    ∀ resource ∈ router, resource.path ≠ path := by
  induction router with
  | nil => exact fun _ hmem => by cases hmem
  | cons resource rest ih =>
    rw [mountExisting] at h
    split at h
    · cases h
    · next hpath => exact List.forall_mem_cons.mpr ⟨hpath, ih (by simpa using h)⟩

theorem mountExisting_eq_some {path : String} {method : Method} {endpoint : Endpoint m}
    {router router' : Router m} (h : mountExisting path method endpoint router = some (.ok router')) :
    ∃ before resource resource' after, router = before ++ resource :: after ∧
      resource.path = path ∧ resource.mount method endpoint = .ok resource' ∧
      router' = before ++ resource' :: after := by
  induction router generalizing router' with
  | nil => cases h
  | cons first rest ih =>
    rw [mountExisting] at h
    split at h
    · next hpath =>
      obtain ⟨first', hfirst, rfl⟩ := map_eq_ok.mp (Option.some.inj h)
      exact ⟨[], first, first', rest, rfl, hpath, hfirst, rfl⟩
    · obtain ⟨result, hresult, h⟩ := Option.map_eq_some_iff.mp h
      obtain ⟨rest', rfl, rfl⟩ := map_eq_ok.mp h
      obtain ⟨before, resource, resource', after, rfl, hpath, hmount, rfl⟩ := ih hresult
      exact ⟨first :: before, resource, resource', after, rfl, hpath, hmount, rfl⟩

/-- **What mounting does.** The endpoint is added to the resource of the path, which had none for the
method; or the path has no resource yet and gets one behind all others, whose pattern is in conflict
with none of theirs. -/
theorem mount_cases {router router' : Router m} {method : Method} {path : String}
    {endpoint : Endpoint m} (h : router.mount method path endpoint = .ok router') :
    (∃ before resource after, router = before ++ resource :: after ∧ resource.path = path ∧
      resource.endpoint? method = none ∧ router' = before ++
        { resource with endpoints := resource.endpoints ++ [(method, endpoint)] } :: after) ∨
    ∃ pattern, Pattern.ofPath path = .ok pattern ∧
      (∀ resource ∈ router, resource.path ≠ path ∧ resource.pattern ≠ pattern) ∧
      router' = router ++ [⟨path, pattern, [(method, endpoint)]⟩] := by
  obtain ⟨pattern, hpattern, h⟩ := bind_eq_ok.mp h
  split at h
  · next result hexisting =>
    subst h
    obtain ⟨before, resource, resource', after, hrouter, hpath, hmount, hrouter'⟩ :=
      mountExisting_eq_some hexisting
    obtain ⟨hnone, rfl⟩ := Resource.mount_eq_ok hmount
    exact .inl ⟨before, resource, after, hrouter, hpath, hnone, hrouter'⟩
  · next hexisting =>
    split at h
    · cases h
    · next hconflict =>
      cases h
      refine .inr ⟨pattern, hpattern, fun resource hmem => ?_, rfl⟩
      refine ⟨mountExisting_eq_none hexisting resource hmem, ?_⟩
      rintro rfl
      -- a pattern is in conflict with itself
      exact hconflict (List.any_eq_true.mpr ⟨resource, hmem, resource.pattern.conflicts_self⟩)

/-- The resource of a path has an endpoint for a method. -/
def Answers (router : Router m) (method : Method) (path : String) (endpoint : Endpoint m) : Prop :=
  ∃ resource ∈ router, resource.path = path ∧ resource.endpoint? method = some endpoint

section Mount

variable {router router' : Router m} {method : Method} {path : String} {endpoint : Endpoint m}

theorem Sound.mount (hsound : router.Sound)
    (h : router.mount method path endpoint = .ok router') : router'.Sound := by
  obtain ⟨before, resource, after, rfl, _, _, rfl⟩ | ⟨pattern, hpattern, hnew, rfl⟩ := mount_cases h
  · -- paths and patterns stay as they were
    obtain ⟨hspelled, hdistinct⟩ := hsound
    refine ⟨fun other hother => ?_, by simpa using hdistinct⟩
    rcases List.mem_append.mp hother with hother | hother
    · exact hspelled other (List.mem_append_left _ hother)
    · rcases List.mem_cons.mp hother with rfl | hother
      · exact hspelled resource (List.mem_append_right _ List.mem_cons_self)
      · exact hspelled other (List.mem_append_right _ (List.mem_cons_of_mem _ hother))
  · refine ⟨fun other hother => ?_, ?_⟩
    · rcases List.mem_append.mp hother with hother | hother
      · exact hsound.spelled other hother
      · rw [List.mem_singleton.mp hother]
        exact hpattern
    · rw [List.map_append, List.nodup_append]
      refine ⟨hsound.distinct, List.nodup_singleton _, ?_⟩
      rintro _ hold _ hone rfl
      obtain ⟨other, hother, hsame⟩ := List.mem_map.mp hold
      exact (hnew other hother).2 (hsame.trans (List.mem_singleton.mp hone))

/-- Resources of one path are one resource. -/
theorem Sound.eq_of_path (hsound : router.Sound) {a b : Resource m} (ha : a ∈ router)
    (hb : b ∈ router) (hpath : a.path = b.path) : a = b := by
  have hpattern := hsound.spelled a ha
  rw [hpath, hsound.spelled b hb] at hpattern
  exact List.inj_on_of_nodup_map hsound.distinct ha hb (Except.ok.inj hpattern).symm

/-- What is mounted was not there before. -/
theorem Sound.fresh (hsound : router.Sound) (h : router.mount method path endpoint = .ok router')
    (endpoint' : Endpoint m) : ¬router.Answers method path endpoint' := by
  rintro ⟨other, hother, hpath, hendpoint⟩
  obtain ⟨before, resource, after, rfl, hresource, hnone, _⟩ | ⟨_, _, hnew, _⟩ := mount_cases h
  · have hmem : resource ∈ before ++ resource :: after :=
      List.mem_append_right _ List.mem_cons_self
    rw [hsound.eq_of_path hother hmem (hpath.trans hresource.symm), hnone] at hendpoint
    cases hendpoint
  · exact (hnew other hother).1 hpath

theorem answers_mount (h : router.mount method path endpoint = .ok router') :
    router'.Answers method path endpoint := by
  obtain ⟨before, resource, after, _, hpath, hnone, rfl⟩ | ⟨pattern, _, _, rfl⟩ := mount_cases h
  · refine ⟨_, List.mem_append_right _ List.mem_cons_self, hpath, ?_⟩
    rw [Resource.endpoint?_append, hnone, if_pos rfl]
    rfl
  · refine ⟨_, List.mem_append_right _ List.mem_cons_self, rfl, ?_⟩
    simp [Resource.endpoint?]

/-- Mounting takes nothing away. -/
theorem Answers.mount {method' : Method} {path' : String} {endpoint' : Endpoint m}
    (hanswers : router.Answers method' path' endpoint')
    (h : router.mount method path endpoint = .ok router') :
    router'.Answers method' path' endpoint' := by
  obtain ⟨other, hother, hpath, hendpoint⟩ := hanswers
  obtain ⟨before, resource, after, rfl, _, _, rfl⟩ | ⟨_, _, _, rfl⟩ := mount_cases h
  · rcases List.mem_append.mp hother with hother | hother
    · exact ⟨other, List.mem_append_left _ hother, hpath, hendpoint⟩
    · rcases List.mem_cons.mp hother with rfl | hother
      · refine ⟨_, List.mem_append_right _ List.mem_cons_self, hpath, ?_⟩
        rw [Resource.endpoint?_append, hendpoint]
        rfl
      · exact ⟨other, List.mem_append_right _ (List.mem_cons_of_mem _ hother), hpath, hendpoint⟩
  · exact ⟨other, List.mem_append_left _ hother, hpath, hendpoint⟩

end Mount

/-- A literal path that has an endpoint starts at the root. -/
theorem Answers.starts {router : Router m} {method : Method} {path : String} {endpoint : Endpoint m}
    (h : router.Answers method path endpoint) (hsound : router.Sound) (hliteral : IsLiteral path) :
    path.toList.head? = some '/' := by
  obtain ⟨resource, hmem, rfl, _⟩ := h
  exact (Pattern.ofPath_literal hliteral (hsound.spelled resource hmem)).2

/-- **A literal path is answered by its endpoint.** -/
theorem Answers.respond [Monad m] {router : Router m} {method : Method} {path : String}
    {endpoint : Endpoint m} (h : router.Answers method path endpoint) (hsound : router.Sound)
    (hliteral : IsLiteral path) {request : Request} (hmethod : request.method = method.name)
    (hpath : request.target.path = path) : router.respond request = endpoint [] request := by
  obtain ⟨resource, hmem, rfl, hendpoint⟩ := h
  rw [Router.respond, hpath, find?_of_literal hsound hmem hliteral]
  exact Resource.respond_of_endpoint hendpoint [] hmethod

end Router

end Http

/-! ## Services -/

namespace Service

open Http (Method Router IsLiteral Target)

variable {m : Type → Type}

/-- What a route is listed as. -/
def Route.entry (route : Route m) : Entry := ⟨route.method, route.path, route.descriptor⟩

/-- The method and the path of an entry. -/
def Entry.place (entry : Entry) : Method × String := (entry.method, entry.path)

/-- In a catalog that lists no place twice every entry is found by its place. -/
theorem Catalog.route?_of_mem {catalog : Catalog} (hdistinct : (catalog.routes.map Entry.place).Nodup)
    {entry : Entry} (hmem : entry ∈ catalog.routes) :
    catalog.route? entry.method entry.path = some entry := by
  obtain ⟨before, after, hroutes⟩ := List.append_of_mem hmem
  refine List.find?_eq_some_iff_append.mpr ⟨by simp, before, after, hroutes, fun earlier hearlier => ?_⟩
  rw [hroutes, List.map_append, List.nodup_append] at hdistinct
  have hplace : earlier.place ≠ entry.place :=
    hdistinct.2.2 _ (List.mem_map_of_mem hearlier) _ (List.mem_map_of_mem List.mem_cons_self)
  simpa [Entry.place, Prod.ext_iff, not_and_or, imp_iff_not_or] using hplace

/-- Routes are registered with a service: they are listed in their order, no two of them have one
place, and the router has the endpoint of each. -/
structure Registered (service : Service m) (routes : List (Route m)) : Prop where
  sound : service.router.Sound
  listed : service.catalog.routes = routes.map Route.entry
  distinct : (service.catalog.routes.map Entry.place).Nodup
  answers : ∀ route ∈ routes, service.router.Answers route.method route.path route.endpoint

theorem registered_new (title version : String) (description : Option String) :
    Registered (new title version description : Service m) [] where
  sound := ⟨fun _ h => (by cases h), List.nodup_nil⟩
  listed := rfl
  distinct := List.nodup_nil
  answers := fun _ h => by cases h

/-- One registration. -/
theorem Registered.mount {service service' : Service m} {routes : List (Route m)} {route : Route m}
    (hreg : Registered service routes) (h : service.mount route = .ok service') :
    Registered service' (routes ++ [route]) := by
  obtain ⟨router, hrouter, h⟩ := bind_eq_ok.mp h
  cases h
  refine ⟨hreg.sound.mount hrouter, ?_, ?_, fun other hother => ?_⟩
  · rw [List.map_append, ← hreg.listed]
    rfl
  · rw [List.map_append, List.nodup_append]
    refine ⟨hreg.distinct, List.nodup_singleton _, ?_⟩
    rintro _ hold _ hone rfl
    -- an entry at the same place would have an endpoint in the router
    obtain ⟨entry, hentry, hplace⟩ := List.mem_map.mp hold
    rw [hreg.listed] at hentry
    obtain ⟨other, hother, rfl⟩ := List.mem_map.mp hentry
    obtain ⟨hmethod, hpath⟩ := Prod.ext_iff.mp (hplace.trans (List.mem_singleton.mp hone))
    have hanswers := hreg.answers other hother
    rw [show other.method = route.method from hmethod, show other.path = route.path from hpath]
      at hanswers
    exact hreg.sound.fresh hrouter _ hanswers
  · rcases List.mem_append.mp hother with hother | hother
    · exact (hreg.answers other hother).mount hrouter
    · rw [List.mem_singleton.mp hother]
      exact Router.answers_mount hrouter

/-- **A run of registrations.** -/
theorem Registered.mountAll {service service' : Service m} {earlier routes : List (Route m)}
    (hreg : Registered service earlier) (h : service.mountAll routes = .ok service') :
    Registered service' (earlier ++ routes) := by
  induction routes generalizing service earlier with
  | nil =>
    cases h
    rwa [List.append_nil]
  | cons route routes ih =>
    rw [Service.mountAll, List.foldlM_cons] at h
    obtain ⟨middle, hfirst, hrest⟩ := bind_eq_ok.mp h
    rw [← List.singleton_append, ← List.append_assoc]
    exact ih (hreg.mount hfirst) hrest

/-! ## Handlers -/

/-- A handler that is registered on a method and a path, with the way its values are read and
written. -/
structure Registration (m : Type → Type) where
  {Input : Type}
  {Output : Type}
  [fresh : Inhabited Output]
  method : Method
  path : String
  codec : Http.Codec Input Output
  handler : Handler m Input Output

namespace Registration

/-- What the registration is listed as. -/
def entry (r : Registration m) : Entry := ⟨r.method, r.path, r.handler.descriptor⟩

/-- The answer of the handler to a request. -/
def answer [Monad m] (r : Registration m) (request : Http.Request) : m Http.Response :=
  let _ := r.fresh
  Http.handle r.codec r.handler [] request

/-- The route of the handler. -/
def route [Monad m] (r : Registration m) : Route m :=
  let _ := r.fresh
  .ofHandler r.method r.path r.codec r.handler

end Registration

/-- **Catalog and router agree.** Whenever a service takes registrations, its catalog lists exactly
these, in their order and each with the descriptor of its handler, and no two of them have the same
method and path. So the catalog gives for the method and the path of each registration the entry of
this one. And if the path is literal, then every request of the method to the path, whatever its query
and its body, is answered by the handler of the registration. -/
theorem mountAll_agrees [Monad m] {title version : String} {description : Option String}
    {registrations : List (Registration m)} {service : Service m}
    (h : (new title version description).mountAll (registrations.map (·.route)) = .ok service) :
    service.catalog.routes = registrations.map (·.entry) ∧
      (service.catalog.routes.map fun entry => (entry.method, entry.path)).Nodup ∧
      ∀ (i : Nat) (r : Registration m), registrations[i]? = some r →
        service.catalog.route? r.method r.path = service.catalog.routes[i]? ∧
        (IsLiteral r.path →
          (Target.ofUri r.path).path = r.path ∧
          (∀ query, (Target.ofUri (r.path ++ "?" ++ query)).path = r.path) ∧
          ∀ request : Http.Request, request.method = r.method.name →
            request.target.path = r.path → service.respond request =
              (·.withHeader "access-control-allow-origin" "*") <$> r.answer request) := by
  have hreg := (registered_new title version description).mountAll h
  rw [List.nil_append] at hreg
  have hlisted : service.catalog.routes = registrations.map (·.entry) := by
    rw [hreg.listed, List.map_map]
    rfl
  refine ⟨hlisted, hreg.distinct, fun i r hr => ?_⟩
  have hmem : r ∈ registrations := List.mem_of_getElem? hr
  have hanswers : service.router.Answers r.method r.path r.route.endpoint :=
    hreg.answers r.route (List.mem_map_of_mem hmem)
  refine ⟨?_, fun hliteral => ?_⟩
  · have hentry : r.entry ∈ service.catalog.routes := hlisted ▸ List.mem_map_of_mem hmem
    rw [hlisted, List.getElem?_map, hr]
    exact Catalog.route?_of_mem hreg.distinct hentry
  · have huri : ∀ query : String, (∀ c ∈ query.toList.head?, c = '?') →
        (Target.ofUri (r.path ++ query)).path = r.path :=
      fun _ hquery => hliteral.ofUri (hanswers.starts hreg.sound hliteral) hquery
    refine ⟨?_, fun query => ?_, fun request hmethod hpath => ?_⟩
    · simpa using huri "" fun _ h => by cases h
    · rw [String.append_assoc]
      refine huri _ fun c hc => ?_
      rw [String.toList_append] at hc
      cases hc
      rfl
    · have hoptions : request.method ≠ "OPTIONS" := by
        rw [hmethod]
        cases r.method <;> decide
      rw [respond, Router.respondToAny, if_neg hoptions,
        hanswers.respond hreg.sound hliteral hmethod hpath]
      rfl

/-- A path with a parameter, and behind it a literal one that it matches too, with two methods: the
list is read by its own handler. -/
theorem mountAll_agrees_parameter :
    let settings := Handler.Settings.tagged "Item"
    let registrations : List (Registration Sample.Act) :=
      [⟨.get, "/item/\x7b_id\x7d", Sample.itemIdCodec, .build Sample.Shelf.read settings "ItemId" "Item"⟩,
        ⟨.post, "/item/all", Sample.itemCodec, .build Sample.Shelf.create settings "Item" "Item"⟩,
        ⟨.get, "/item/all", Sample.pageCodec, .build Sample.Shelf.list settings "Page" "ItemPage"⟩]
    ∃ service, (new "Items" "1.0.0" none).mountAll (registrations.map (·.route)) = .ok service ∧
      service.catalog.route? .get "/item/all" = service.catalog.routes[2]? ∧
      ∀ request : Http.Request, request.method = "GET" →
        request.target = Target.ofUri "/item/all?limit=1" →
        service.respond request = (·.withHeader "access-control-allow-origin" "*") <$>
          Http.handle Sample.pageCodec (.build Sample.Shelf.list settings "Page" "ItemPage") []
            request := by
  intro settings registrations
  -- the path as a list of characters first, so that reading it computes
  have hitem : Http.Pattern.ofPath "/item/\x7b_id\x7d" =
      .ok (Http.Pattern.literal "/item/".toList ++ [.param "_id"]) := by
    rw [Http.Pattern.ofPath, show "/item/\x7b_id\x7d".toList =
      ['/', 'i', 't', 'e', 'm', '/', '{', '_', 'i', 'd', '}'] from rfl]
    rfl
  have hall : Http.Pattern.ofPath "/item/all" = .ok (Http.Pattern.literal "/item/all".toList) := by
    rw [Http.Pattern.ofPath, show "/item/all".toList =
      ['/', 'i', 't', 'e', 'm', '/', 'a', 'l', 'l'] from rfl]
    rfl
  obtain ⟨service, h⟩ : ∃ service, (new "Items" "1.0.0" none).mountAll
      (registrations.map (·.route)) = .ok service := by
    simp only [registrations, mountAll, List.map_cons, List.map_nil, List.foldlM_cons,
      List.foldlM_nil, mount, Registration.route, Route.ofHandler, Router.mount, hitem, hall]
    exact ⟨_, rfl⟩
  obtain ⟨_, _, hrun⟩ := mountAll_agrees h
  obtain ⟨hroute, hanswer⟩ := hrun 2 _ rfl
  have hliteral : IsLiteral "/item/all" := by simp [IsLiteral, Http.reserved]
  obtain ⟨_, huri, hrespond⟩ := hanswer hliteral
  refine ⟨service, h, hroute, fun request hmethod htarget => hrespond request hmethod ?_⟩
  rw [htarget]
  exact huri "limit=1"

end Service

end Rowgate
