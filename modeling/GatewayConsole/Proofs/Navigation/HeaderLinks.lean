import GatewayConsole.Navigation.Header
import GatewayConsole.Proofs.Navigation.Places

/-!
# Links of the header

Which links a visitor sees and where they lead, for switches read from any JSON value. A
value that is no object, or does not mention a module, shows it.
-/

namespace GatewayConsole

/-! ## Switches in any value -/

namespace Switches

def Shows (value : Json) (key : String) : Prop :=
  (∀ members, value ≠ .object members) ∨ value.member? key = none ∨
    value.member? key = some (.bool true)

def HidesPricing (value : Json) : Prop :=
  value.member? "pricing" = some (.bool false) ∨
    ∃ members, value.member? "pricing" = some (.object members) ∧
      (JsonTree.object members).member? "enabled" = some (.bool false)

def ClosesPricing (value : Json) : Prop :=
  ∃ members, value.member? "pricing" = some (.object members) ∧
    (JsonTree.object members).member? "requireAuth" = some (.bool true)

variable {value : Json}

theorem flag_iff (members : List (String × Json)) (key : String) :
    flag (.object members) key = true ↔ Shows (.object members) key := by
  have object : ¬ ∀ others, (JsonTree.object members : Json) ≠ .object others :=
    fun other => other members rfl
  rw [flag, Shows, or_iff_right object]
  cases given : (JsonTree.object members : Json).member? key with
  | none => simp
  | some switch => cases switch <;> simp [JsonTree.asBool?]

theorem initial_enabled (entry : HeaderModule) : initial.isEnabled entry = true := by
  cases entry <;> rfl

theorem ofJson_of_not_object (other : ∀ members, value ≠ .object members) :
    ofJson value = initial := by
  cases value <;> first | rfl | exact absurd rfl (other _)

theorem isEnabled_ofJson {entry : HeaderModule} (different : entry ≠ .pricing) (value : Json) :
    (ofJson value).isEnabled entry = true ↔ Shows value entry.key := by
  by_cases object : ∃ members, value = .object members
  · rcases object with ⟨members, rfl⟩
    cases entry with
    | pricing => exact absurd rfl different
    | _ => exact flag_iff members _
  · have other (members) : value ≠ .object members := fun equal => object ⟨members, equal⟩
    rw [ofJson_of_not_object other, initial_enabled]
    exact ⟨fun _ => .inl other, fun _ => rfl⟩

theorem pricing_ofJson (value : Json) :
    (ofJson value).pricing = PricingSwitch.ofJson (value.member? "pricing") := by
  cases value <;> rfl

theorem getD_asBool?_iff (switch : Option Json) (default : Bool) :
    (switch.bind (·.asBool?)).getD default = !default ↔ switch = some (.bool !default) := by
  cases switch with
  | none => cases default <;> simp
  | some given => cases given <;> cases default <;> simp [JsonTree.asBool?]

theorem enabled_ofJson (value : Json) :
    (ofJson value).pricing.enabled = true ↔ ¬ HidesPricing value := by
  rw [pricing_ofJson, ← Bool.not_eq_false, HidesPricing]
  refine not_congr ?_
  cases given : value.member? "pricing" with
  | none => simp [PricingSwitch.ofJson, PricingSwitch.initial]
  | some switch =>
      cases switch with
      | object members =>
          have off := getD_asBool?_iff ((JsonTree.object members : Json).member? "enabled") true
          simpa [PricingSwitch.ofJson, PricingSwitch.initial] using off
      | _ => simp [PricingSwitch.ofJson, PricingSwitch.initial]

theorem requiresLogin_ofJson (value : Json) :
    (ofJson value).pricing.requiresLogin = true ↔ ClosesPricing value := by
  rw [pricing_ofJson, ClosesPricing]
  cases given : value.member? "pricing" with
  | none => simp [PricingSwitch.ofJson, PricingSwitch.initial]
  | some switch =>
      cases switch with
      | object members =>
          have on := getD_asBool?_iff ((JsonTree.object members : Json).member? "requireAuth") false
          simpa [PricingSwitch.ofJson, PricingSwitch.initial] using on
      | _ => simp [PricingSwitch.ofJson, PricingSwitch.initial]

end Switches

/-! ## Visible links -/

theorem HeaderModule.key_injective {entry other : HeaderModule} (same : entry.key = other.key) :
    entry = other := by
  have found := HeaderModule.ofKey?_key entry
  rw [same, HeaderModule.ofKey?_key] at found
  exact (Option.some.inj found).symm

namespace Header

variable {translate : Translator} {docsLink : Option String} {switches : Switches}
  {role : Option Int64} {entry : HeaderModule} {link : Link}

theorem key_of_link? (given : link? translate docsLink entry = some link) :
    link.key = entry.key := by
  cases entry with
  | docs =>
      rcases Option.map_eq_some_iff.mp given with ⟨url, _, rfl⟩
      rfl
  | _ => exact Option.some.inj given ▸ rfl

theorem mem_links : link ∈ links translate docsLink switches role ↔
    ∃ entry, isShown switches role entry = true ∧ link? translate docsLink entry = some link := by
  simp [links, List.mem_filterMap, HeaderModule.mem_all]

theorem keys_filterMap_sublist (entries : List HeaderModule) :
    ((entries.filterMap (link? translate docsLink)).map Link.key).Sublist
      (entries.map HeaderModule.key) := by
  induction entries with
  | nil => exact .slnil
  | cons entry rest induction =>
      cases given : link? translate docsLink entry with
      | none =>
          rw [List.filterMap_cons_none given]
          exact induction.cons _
      | some link =>
          rw [List.filterMap_cons_some given, List.map_cons, List.map_cons, key_of_link? given]
          exact induction.cons_cons _

theorem keys_links_sublist (translate : Translator) (docsLink : Option String)
    (switches : Switches) (role : Option Int64) :
    ((links translate docsLink switches role).map Link.key).Sublist
      (HeaderModule.all.map HeaderModule.key) :=
  (keys_filterMap_sublist _).trans (List.filter_sublist.map _)

theorem link?_isSome_iff :
    (∃ link, link? translate docsLink entry = some link) ↔
      (entry = .docs → ∃ url, docsLink = some url ∧ url ≠ "") := by
  cases entry with
  | docs =>
      simp only [link?, Option.map_eq_some_iff, Option.filter_eq_some_iff, decide_eq_true_eq,
        forall_const]
      constructor
      · rintro ⟨_, url, given, _⟩
        exact ⟨url, given⟩
      · rintro ⟨url, given⟩
        exact ⟨_, url, given, rfl⟩
  | _ => exact ⟨fun _ => nofun, fun _ => ⟨_, rfl⟩⟩

theorem mem_keys_links_iff : entry.key ∈ (links translate docsLink switches role).map Link.key ↔
    isShown switches role entry = true ∧
      (entry = .docs → ∃ url, docsLink = some url ∧ url ≠ "") := by
  rw [List.mem_map]
  constructor
  · rintro ⟨link, member, same⟩
    rcases mem_links.mp member with ⟨other, shown, given⟩
    rw [key_of_link? given] at same
    rw [← HeaderModule.key_injective same]
    exact ⟨shown, link?_isSome_iff.mp ⟨link, given⟩⟩
  · rintro ⟨shown, documented⟩
    rcases link?_isSome_iff.mpr documented with ⟨link, given⟩
    exact ⟨link, mem_links.mpr ⟨entry, shown, given⟩, key_of_link? given⟩

def IsVisible (value : Json) (docsLink : Option String) (session : Session) : HeaderModule → Prop
  | .console => Switches.Shows value "console" ∧
      ∃ user, session.user = some user ∧ administratorRole ≤ user.role
  | .docs => Switches.Shows value "docs" ∧ ∃ url, docsLink = some url ∧ url ≠ ""
  | .pricing => ¬ Switches.HidesPricing value
  | entry => Switches.Shows value entry.key

theorem isAdministrator_iff (session : Session) :
    administratorRole ≤ session.role?.getD 0 ↔
      ∃ user, session.user = some user ∧ administratorRole ≤ user.role := by
  rcases session with ⟨_ | user⟩
  · simp [Session.role?, administratorRole]
  · simp [Session.role?]

theorem mem_keys_links_iff_isVisible (value : Json) (session : Session) :
    entry.key ∈ (links translate docsLink (Switches.ofJson value) session.role?).map Link.key ↔
      IsVisible value docsLink session entry := by
  rw [mem_keys_links_iff, isShown, Bool.and_eq_true]
  cases entry with
  | pricing => simp [IsVisible, Switches.isEnabled, Switches.enabled_ofJson]
  | console =>
      rw [Switches.isEnabled_ofJson (by decide)]
      simp [IsVisible, isAdministrator_iff, HeaderModule.key]
  | _ =>
      rw [Switches.isEnabled_ofJson (by decide)]
      simp [IsVisible, HeaderModule.key]

/-! ## Destinations -/

variable {visitor : Visitor} {resolved : ResolvedLink}

theorem source_of_mem
    (member : resolved ∈ Link.resolve (links translate docsLink switches role) visitor) :
    ∃ entry link, link? translate docsLink entry = some link ∧
      resolved = Link.resolveIn visitor none link := by
  rw [Link.resolve, Link.resolveAll_eq_map] at member
  rcases List.mem_map.mp member with ⟨link, listed, rfl⟩
  rcases mem_links.mp listed with ⟨entry, _, given⟩
  exact ⟨entry, link, given, rfl⟩

theorem source_of_key
    (member : resolved ∈ Link.resolve (links translate docsLink switches role) visitor)
    (entry : HeaderModule) (same : resolved.key = entry.key) :
    ∃ link, link? translate docsLink entry = some link ∧
      resolved = Link.resolveIn visitor none link := by
  rcases source_of_mem member with ⟨other, link, given, rfl⟩
  rw [Link.key_resolveIn, key_of_link? given] at same
  rw [← HeaderModule.key_injective same]
  exact ⟨link, given, rfl⟩

theorem keys_resolve (links : List Link) (visitor : Visitor) :
    (Link.resolve links visitor).map (·.key) = links.map Link.key := by
  rw [Link.resolve, Link.resolveAll_eq_map, List.map_map]
  exact List.map_congr_left fun link _ => Link.key_resolveIn visitor none link

theorem href_pricing_iff (loggedOut : visitor.loggedIn = false) (text : String) :
    (Link.resolveIn visitor none (.page "pricing" text false "/pricing")).href =
      some Link.loginPath ↔ visitor.pricingRequiresLogin = true := by
  rcases visitor with ⟨loggedIn, required⟩
  cases loggedOut
  cases required with
  | true => exact iff_of_true rfl rfl
  | false => exact iff_of_false (fun same => absurd (Option.some.inj same) (by decide)) nofun

section Login

variable (given : link? translate docsLink entry = some link)
include given

theorem protected_of_link?
    (listed : entry ∈ [HeaderModule.console, .token, .wallet, .account, .logs]) :
    link.requiresLogin = true ∧ link.isExternal = false := by
  cases entry with
  | home | pricing | docs | about => exact absurd listed (by decide)
  | _ =>
      cases given
      exact ⟨rfl, rfl⟩

theorem child_of_link? {child : Link} (member : child ∈ link.children) :
    link.requiresLogin = true ∧ child.isExternal = false ∧ child.path? ≠ some Link.loginPath := by
  cases entry with
  | logs =>
      cases given
      have pages : child.isExternal = false ∧ child.path? ≠ some Link.loginPath := by
        simp only [logsMenu, Link.children, List.mem_cons, List.not_mem_nil, or_false] at member
        rcases member with rfl | rfl | rfl <;>
          exact ⟨rfl, fun same => absurd (Option.some.inj same) (by decide)⟩
      exact ⟨rfl, pages⟩
  | docs =>
      rcases Option.map_eq_some_iff.mp given with ⟨url, _, rfl⟩
      exact absurd member List.not_mem_nil
  | _ =>
      cases given
      exact absurd member List.not_mem_nil

theorem docs_of_loginPath
    (target : (if link.isExternal then link.url? else link.path?) = some Link.loginPath) :
    entry = .docs ∧ docsLink = some Link.loginPath := by
  cases entry with
  | docs =>
      rcases Option.map_eq_some_iff.mp given with ⟨url, kept, rfl⟩
      exact ⟨rfl, (Option.filter_eq_some_iff.mp kept).1.trans target⟩
  | logs =>
      cases given
      exact absurd target nofun
  | _ =>
      cases given
      exact absurd (Option.some.inj target) (by decide)

end Login

/-- What a header promises: its links, in order, and where each of them leads. -/
structure Guides (value : Json) (docsLink : Option String) (session : Session)
    (links : List Link) (resolved : List ResolvedLink) : Prop where
  order : (links.map Link.key).Sublist
    ["home", "console", "token", "wallet", "account", "logs", "pricing", "docs", "about"]
  visible : ∀ entry : HeaderModule,
    entry.key ∈ links.map Link.key ↔ IsVisible value docsLink session entry
  keys : resolved.map (·.key) = links.map Link.key
  logs : ∀ link ∈ resolved, link.key = "logs" →
    link.children.map (·.key) = ["usage-log", "drawing-log", "task-log"]
  anonymous : session.user = none → ∀ link ∈ resolved,
    (link.key ∈ ["token", "wallet", "account", "logs"] → link.href = some Link.loginPath) ∧
    (link.key = "logs" → ∀ child ∈ link.children, child.href = some Link.loginPath) ∧
    (link.key = "pricing" →
      (link.href = some Link.loginPath ↔ Switches.ClosesPricing value))
  everyone : ∀ link ∈ resolved, (link.key = "home" → link.href = some "/") ∧
    (link.key = "about" → link.href = some "/about") ∧
    (link.key = "docs" → link.href = docsLink)
  loggedIn : session.user ≠ none → ∀ link ∈ resolved,
    (link.href = some Link.loginPath → link.key = "docs" ∧ docsLink = some Link.loginPath) ∧
    ∀ child ∈ link.children, child.href ≠ some Link.loginPath

variable (value : Json) (docsLink) (translate) (session : Session)

/-- For every value of the switches and every visitor, the header has the links that are
visible; an anonymous visitor is sent to the login page by the links that require one, and a
user who is logged in only by a link to the documentation that is the login page itself. -/
theorem guides_links :
    Guides value docsLink session
      (links translate docsLink (Switches.ofJson value) session.role?)
      (Link.resolve (links translate docsLink (Switches.ofJson value) session.role?)
        (.ofSession session (Switches.ofJson value))) where
  order := keys_links_sublist translate docsLink _ _
  visible entry := mem_keys_links_iff_isVisible value session
  keys := keys_resolve _ _
  logs link member key := by
    rcases source_of_key member .logs key with ⟨_, given, rfl⟩
    cases given
    rfl
  anonymous nobody link member := by
    have loggedOut : (Visitor.ofSession session (Switches.ofJson value)).loggedIn = false := by
      rw [Visitor.ofSession, Session.isLoggedIn, nobody]
      rfl
    have sent (entry : HeaderModule)
        (listed : entry ∈ [HeaderModule.console, .token, .wallet, .account, .logs])
        (key : link.key = entry.key) : link.href = some Link.loginPath := by
      rcases source_of_key member entry key with ⟨source, given, rfl⟩
      rcases protected_of_link? given listed with ⟨required, inside⟩
      exact Link.href_of_isProtected loggedOut [] inside (.inl required)
    refine ⟨?_, ?_, ?_⟩
    · intro listed
      simp only [List.mem_cons, List.not_mem_nil, or_false] at listed
      rcases listed with key | key | key | key
      · exact sent .token (by decide) key
      · exact sent .wallet (by decide) key
      · exact sent .account (by decide) key
      · exact sent .logs (by decide) key
    · intro key child childMember
      rcases source_of_key member .logs key with ⟨source, given, rfl⟩
      rw [Link.children_resolveIn, Link.resolveAll_eq_map] at childMember
      rcases List.mem_map.mp childMember with ⟨page, listed, rfl⟩
      rcases child_of_link? given listed with ⟨required, inside, _⟩
      exact Link.href_of_isProtected loggedOut [source] inside (.inr ⟨source, rfl, required⟩)
    · intro key
      rcases source_of_key member .pricing key with ⟨source, given, rfl⟩
      cases given
      exact (href_pricing_iff loggedOut _).trans (Switches.requiresLogin_ofJson value)
  everyone link member := by
    refine ⟨?_, ?_, ?_⟩
    · intro key
      rcases source_of_key member .home key with ⟨_, given, rfl⟩
      cases given
      rfl
    · intro key
      rcases source_of_key member .about key with ⟨_, given, rfl⟩
      cases given
      rfl
    · intro key
      rcases source_of_key member .docs key with ⟨_, given, rfl⟩
      rcases Option.map_eq_some_iff.mp given with ⟨url, kept, rfl⟩
      exact (Option.filter_eq_some_iff.mp kept).1.symm
  loggedIn someone link member := by
    have loggedIn : (Visitor.ofSession session (Switches.ofJson value)).loggedIn = true :=
      Option.isSome_iff_ne_none.mpr someone
    rcases source_of_mem member with ⟨entry, source, given, rfl⟩
    constructor
    · intro leads
      rw [Link.href_of_loggedIn loggedIn] at leads
      rcases docs_of_loginPath given leads with ⟨rfl, documented⟩
      exact ⟨(Link.key_resolveIn ..).trans (key_of_link? given), documented⟩
    · intro child childMember
      rw [Link.children_resolveIn, Link.resolveAll_eq_map] at childMember
      rcases List.mem_map.mp childMember with ⟨page, listed, rfl⟩
      rcases child_of_link? given listed with ⟨_, inside, elsewhere⟩
      rw [Link.href_of_loggedIn loggedIn, inside]
      exact elsewhere

/-- A user who is logged in is sent to the login page when that is the address of the
documentation. -/
theorem login_page_as_documentation :
    let session : Session := ⟨some ⟨1, "root", "Root", 100⟩⟩
    let switches := Switches.ofJson (.object [])
    let resolved := Link.resolve (links .unchanged (some "/login") switches session.role?)
      (.ofSession session switches)
    session.user ≠ none ∧ ∃ link ∈ resolved, link.href = some Link.loginPath := by
  intro session switches resolved
  have placed : resolved[7]? = some (.mk "docs" "Docs" (some "/login") true []) := rfl
  exact ⟨nofun, _, List.mem_of_getElem? placed, rfl⟩

end Header
end GatewayConsole
