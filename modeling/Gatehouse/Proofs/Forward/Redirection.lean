import Gatehouse.CommandLine.Options
import Gatehouse.Proofs.Except
import Gatehouse.Proofs.Forward.Engine
import Gatehouse.Proofs.Forward.ForgedLines
import Gatehouse.Proofs.Forward.Response
import Gatehouse.Proofs.Redirect

/-!
# Redirections - To a login page and back

Somebody who has to log in is sent to an address that is made from a template, which carries the
target to come back to.  What the page hands back is read as that target again.

Main definition: `Engine.SendsToPages`: a decision sends nobody elsewhere than to the two pages.

Main results:

- Theorem `redirection_eq`: where somebody is sent by a template with a place for the target.
- Theorem `Engine.of_decide_redirect`: redirections are made from the templates for the two pages.
- Theorem `Options.hasSlot`: these templates have a place for the target.
- Theorem `Engine.targets_come_back`: targets survive the way to a login page and back.
-/

namespace Gatehouse.CommandLine

open Redirect (HasSlot)

variable {g : Given} {name : String}

/-! ## Templates that are given -/

theorem Given.hasSlot_of_template? {given : Option String} (h : g.template? name = .ok given) :
    ∀ template ∈ given, HasSlot template := by
  rw [template?] at h
  split at h
  · cases h
    nofun
  · split at h
    · rename_i slot
      cases h
      rintro template ⟨⟩
      exact Redirect.hasSlot_iff.1 slot
    · cases h

/-- The template that counts has a place when the one that is given has and the default has. -/
theorem hasSlot_getD {given : Option String} (h : ∀ template ∈ given, HasSlot template)
    (front page : String) : HasSlot (given.getD (front ++ (page ++ "%s"))) := by
  cases given with
  | none => exact ⟨front ++ page, "", by simp [String.append_assoc]⟩
  | some template => exact h template rfl

theorem Given.hasSlot_config {c : Config} (h : g.config = .ok c) :
    HasSlot c.loginUrl ∧ HasSlot c.refreshUrl := by
  rw [config] at h
  split at h
  · obtain ⟨secret, -, h⟩ := exists_of_bind_eq_ok h
    obtain ⟨algorithm, -, h⟩ := exists_of_bind_eq_ok h
    obtain ⟨login, loginRead, h⟩ := exists_of_bind_eq_ok h
    obtain ⟨refresh, refreshRead, h⟩ := exists_of_bind_eq_ok h
    dsimp only at h
    split at h
    · cases h
    · cases h
      exact ⟨hasSlot_getD (hasSlot_of_template? loginRead) _ "/login?redirect=",
        hasSlot_getD (hasSlot_of_template? refreshRead) _ "/refresh?redirect="⟩
  · cases h

/-- Options with a template that has no place for the target are refused. -/
theorem Options.hasSlot {o : Options} (h : g.options = .ok o) :
    HasSlot o.config.loginUrl ∧ HasSlot o.config.refreshUrl := by
  obtain ⟨config, read, h⟩ := exists_of_bind_eq_ok h
  obtain ⟨trusted, -, h⟩ := exists_of_bind_eq_ok h
  cases h
  exact Given.hasSlot_config read

end Gatehouse.CommandLine

namespace Gatehouse.Forward

open Redirect (FirstSlot HasSlot Permitted Returned allowedTarget? encodeTarget fillTemplate)
open Store (Action Memory Query Reply)
open Token (Time)

variable {σ : Type} {answer : σ → (q : Query) → Reply q × σ} {e : Engine} {now : Time}
  {r : Request} {template location : String} {html : Bool} {cors : Http.Headers}

/-! ## Where somebody is sent -/

theorem isBlankText_of_hasSlot (slot : HasSlot template) : Text.isBlankText template = false := by
  obtain ⟨before, after, rfl⟩ := slot
  rw [Text.isBlankText, List.all_eq_false]
  exact ⟨'%', by simp, by decide⟩

/-- A template with a place for the target sends everybody somewhere. -/
theorem redirection_eq (slot : HasSlot template) (r : Request) :
    redirection r template =
      .redirect (fillTemplate template r.returnTarget) r.wantsHtml (corsLines r.headers) := by
  simp [redirection, isBlankText_of_hasSlot slot, r.returnTarget_ne_empty]

/-- Browsers come back to the address that they asked for. -/
theorem Request.returnTarget_of_wantsHtml (pages : r.wantsHtml = true) : r.returnTarget = r.url :=
  if_pos pages

theorem of_redirection_eq_redirect (h : redirection r template = .redirect location html cors) :
    location = fillTemplate template r.returnTarget ∧ html = r.wantsHtml := by
  simp only [redirection] at h
  split at h
  · cases h
  · cases h
    exact ⟨rfl, rfl⟩

namespace Engine

/-- Whoever is sent elsewhere is sent to one of the two pages, with the target to come back to. -/
def SendsToPages (e : Engine) (r : Request) (d : Decision) : Prop :=
  ∀ location html cors, d = .redirect location html cors → html = r.wantsHtml ∧
    (location = fillTemplate e.service.config.loginUrl r.returnTarget ∨
      location = fillTemplate e.service.config.refreshUrl r.returnTarget)

theorem TurnedAway.sendsToPages {d : Decision} (h : e.TurnedAway r d) : e.SendsToPages r d := by
  intro location html cors sent
  cases h with
  | barred => cases sent
  | failed => cases sent
  | sent page =>
      obtain ⟨rfl, rfl⟩ := of_redirection_eq_redirect sent
      rcases page with rfl | rfl
      · exact ⟨rfl, .inl rfl⟩
      · exact ⟨rfl, .inr rfl⟩

/-- No policy sends anybody elsewhere. -/
theorem afterPolicy_ne_redirect (headers : Http.Headers)
    (opinion : Except Policy.Failure (Option Policy.Answer)) :
    afterPolicy r headers opinion ≠ .redirect location html cors := by
  intro sent
  simp only [afterPolicy] at sent
  split at sent
  · cases sent
  · split at sent
    · cases sent
    · cases sent
  · cases sent

theorem applyPolicy_ne_redirect (headers : Http.Headers) (subject : Option Policy.Subject) :
    (e.applyPolicy r headers subject).decision ≠ .redirect location html cors := by
  unfold applyPolicy
  split
  · intro sent
    cases sent
  · exact afterPolicy_ne_redirect headers _

/-- Redirections are made from the templates for the two pages, whatever the store answers. -/
theorem of_decide_redirect :
    (e.decide now r).Ends answer fun _ ruling => e.SendsToPages r ruling.decision := by
  unfold decide
  split
  · exact fun _ _ _ sent => nomatch sent
  · split
    · exact fun _ _ _ sent => nomatch sent
    · refine Action.Ends.bind identify_turnsAway ?_
      intro asked outcome turned
      cases outcome with
      | error d => exact (turned d rfl).sendsToPages
      | ok identity =>
          refine Action.Ends.bind (P := fun _ _ => True)
            (Action.ends_of_forall _ fun _ _ => trivial) ?_
          rintro - described -
          cases described with
          | ok lines => exact fun _ _ _ sent => absurd sent (applyPolicy_ne_redirect _ _)
          | error failure => exact fun _ _ _ sent => nomatch sent

/-! ## There and back -/

/-- A template with a place for the target, as all options have, gives an address in which the
target stands as Base64 text at the first place and all else stays.  When that text comes back, its
padding stripped off or not and blanks around it or not, the target is followed where it is permitted
and nothing is followed elsewhere.  Everybody who is sent to one of the two pages is sent to such an
address, and the target of browsers is the address that they asked for. -/
theorem targets_come_back (slot : HasSlot template) (e : Engine) (now : Time) (r : Request)
    (answer : σ → (q : Query) → Reply q × σ) (s : σ) :
    (∀ target, (∃ before after, FirstSlot template before after ∧
        fillTemplate template target = before ++ encodeTarget target ++ after) ∧
      (∀ c ∈ (encodeTarget target).toList, c.isAlphanum = true ∨ c = '-' ∨ c = '_' ∨ c = '=') ∧
      ∀ text domains, Returned target text →
        (Permitted target domains → allowedTarget? text domains = some target) ∧
        (¬Permitted target domains → allowedTarget? text domains = none)) ∧
    redirection r template =
      .redirect (fillTemplate template r.returnTarget) r.wantsHtml (corsLines r.headers) ∧
    e.SendsToPages r ((e.decide now r).run answer s).1.decision ∧
    (r.wantsHtml = true → r.returnTarget = r.url) ∧
    ∀ g o, CommandLine.Given.options g = .ok o →
      HasSlot o.config.loginUrl ∧ HasSlot o.config.refreshUrl := by
  refine ⟨?_, redirection_eq slot r, ?_, Request.returnTarget_of_wantsHtml, ?_⟩
  · intro target
    refine ⟨Redirect.fillTemplate_eq slot target, fun c => Redirect.of_mem_encodeTarget, ?_⟩
    intro text domains returned
    exact ⟨Redirect.allowedTarget?_of_returned returned,
      Redirect.allowedTarget?_of_not_permitted returned⟩
  · have everyway : (e.decide now r).Ends answer fun _ ruling => e.SendsToPages r ruling.decision :=
      of_decide_redirect
    obtain ⟨-, sends⟩ := everyway.run s
    exact sends
  · intro g o read
    exact CommandLine.Options.hasSlot read

/-- A browser that asks for a page of the house. -/
def pageVisit : Request :=
  ⟨"GET", "https", "app.house", "/a", "", none, ⟨[("accept", utf8 "text/html")]⟩⟩

/-- The browser is sent to the login page and comes back where subdomains of the house are permitted,
but not where just the house itself is. -/
theorem pageVisit_comes_back :
    HasSlot houseEngine.service.config.loginUrl ∧ pageVisit.wantsHtml = true ∧
    redirection pageVisit houseEngine.service.config.loginUrl =
      .redirect "http://localhost:8080/login?redirect=aHR0cHM6Ly9hcHAuaG91c2UvYQ==" true .empty ∧
    allowedTarget? " aHR0cHM6Ly9hcHAuaG91c2UvYQ\n" [".house"] = some pageVisit.url ∧
    allowedTarget? " aHR0cHM6Ly9hcHAuaG91c2UvYQ\n" ["house"] = none := by
  have slot : HasSlot houseEngine.service.config.loginUrl :=
    ⟨"http://localhost:8080/login?redirect=", "", by decide +kernel⟩
  obtain ⟨target, sent, -⟩ := targets_come_back slot houseEngine 0 pageVisit Memory.answer .empty
  have returned : Returned pageVisit.url " aHR0cHM6Ly9hcHAuaG91c2UvYQ\n" :=
    ⟨" ", "aHR0cHM6Ly9hcHAuaG91c2UvYQ", "\n", 2, by decide, by decide, by decide +kernel, by decide⟩
  obtain ⟨-, -, back⟩ := target pageVisit.url
  exact ⟨slot, by decide +kernel, sent, (back _ _ returned).1 (by decide +kernel),
    (back _ _ returned).2 (by decide +kernel)⟩

end Engine

end Gatehouse.Forward
