import SelfUpdate.Proofs.Check.Outcomes

/-!
# What decides a check

What a check asks and what comes of it is settled by what the network tells. The clock counts only for
a release without a date.
-/

namespace SelfUpdate

/-- From these requests on two networks tell the same. -/
def Network.TellsAlike (one : Network) (earlier : List Request) (other : Network)
    (before : List Request) : Prop :=
  ∀ asked url, (one.text (earlier ++ asked) url).reply = (other.text (before ++ asked) url).reply

namespace Network.TellsAlike

variable {one other : Network} {earlier before : List Request}

theorem refl (network : Network) (earlier : List Request) :
    network.TellsAlike earlier network earlier := fun _ _ => rfl

theorem reply (alike : one.TellsAlike earlier other before) (url : String) :
    (one.text earlier url).reply = (other.text before url).reply := by
  simpa using alike [] url

theorem after (alike : one.TellsAlike earlier other before) (asked : List Request) :
    one.TellsAlike (earlier ++ asked) other (before ++ asked) := by
  intro more url
  rw [List.append_assoc, List.append_assoc]
  exact alike (asked ++ more) url

end Network.TellsAlike

/-! ## Clocks -/

/-- A view of updates in which those that were made of the same metadata at two times are the same. -/
def Update.Blind {β : Type} (view : Update → β) (now later : Int64) : Prop :=
  ∀ metadata, (Update.ofMetadata now metadata).map view = (Update.ofMetadata later metadata).map view

namespace Update.Blind

variable {β : Type} {view : Update → β} {now later : Int64}

theorem refl (view : Update → β) (now : Int64) : Blind view now now := fun _ => rfl

theorem toUpdate (blind : Blind view now later) (release : Release.Hosted) (checksum : String) :
    (release.toUpdate now checksum).map view = (release.toUpdate later checksum).map view := by
  rw [Release.Hosted.toUpdate, Release.Hosted.toUpdate]
  cases Release.codeOfVersion release.version with
  | error error => rw [error_bind, error_bind, map_error]
  | ok code =>
      rw [ok_bind, ok_bind]
      cases release.artifact? with
      | none => rfl
      | some artifact =>
          dsimp only
          exact blind _

theorem built {one two : Except Release.Error Update} (same : one.map view = two.map view) :
    (Check.built one).map view = (Check.built two).map view := by
  cases one <;> cases two <;> simp_all [Check.built]

end Update.Blind

namespace Check

variable {network other : Network} {earlier before asked wanted : List Request} {now later : Int64}
  {endpoint : String} {release : Release.Hosted} {artifact : Release.Asset} {β : Type}
  {view : Update → β}

/-- Two ways to seek a checksum exclude each other. -/
theorem Seeks.agree (alike : network.TellsAlike earlier other before)
    {found sought : Except (Halt CheckError) String}
    (one : Seeks network earlier release artifact asked found)
    (two : Seeks other before release artifact wanted sought) :
    asked = wanted ∧ found = sought := by
  have same := alike.reply
  cases one with
  | insecure listed insecure => cases two <;> simp_all
  | unanswered listed secure replied => cases two <;> simp_all
  | unusable listed secure replied absent => cases two <;> simp_all
  | document listed secure replied entry => cases two <;> simp_all
  | digest unlisted field => cases two <;> simp_all
  | unpublished unlisted field => cases two <;> simp_all

theorem Eligible.eq {first : Release.Asset} (one : Eligible release artifact)
    (two : Eligible release first) : first = artifact :=
  Option.some.inj (two.first.symm.trans one.first)

theorem Hosts.agree (alike : network.TellsAlike earlier other before)
    (blind : Update.Blind view now later) {offer result : Except (Halt CheckError) Update}
    (one : Hosts network earlier now release asked offer)
    (two : Hosts other before later release wanted result) :
    asked = wanted ∧ offer.map view = result.map view := by
  cases one with
  | uncoded uncoded =>
      cases two with
      | uncoded => simp_all
      | bare | insecure => simp_all
      | unverifiable eligible | verifiable eligible =>
          obtain ⟨code, coded⟩ := eligible.coded
          simp_all
  | bare coded bare =>
      cases two with
      | uncoded | bare | insecure => simp_all
      | unverifiable eligible | verifiable eligible =>
          cases bare.symm.trans eligible.first
  | insecure coded first insecure =>
      cases two with
      | uncoded | bare | insecure => simp_all
      | unverifiable eligible | verifiable eligible =>
          cases first.symm.trans eligible.first
          cases insecure.symm.trans eligible.secure
  | unverifiable eligible sought =>
      obtain ⟨code, coded⟩ := eligible.coded
      cases two with
      | uncoded uncoded => simp_all
      | bare _ bare => cases bare.symm.trans eligible.first
      | insecure _ first insecure =>
          cases first.symm.trans eligible.first
          cases insecure.symm.trans eligible.secure
      | unverifiable again found =>
          obtain rfl := eligible.eq again
          obtain ⟨rfl, same⟩ := sought.agree alike found
          cases same
          exact ⟨rfl, rfl⟩
      | verifiable again found =>
          obtain rfl := eligible.eq again
          cases (sought.agree alike found).2
  | verifiable eligible sought =>
      obtain ⟨code, coded⟩ := eligible.coded
      cases two with
      | uncoded uncoded => simp_all
      | bare _ bare => cases bare.symm.trans eligible.first
      | insecure _ first insecure =>
          cases first.symm.trans eligible.first
          cases insecure.symm.trans eligible.secure
      | unverifiable again found =>
          obtain rfl := eligible.eq again
          cases (sought.agree alike found).2
      | verifiable again found =>
          obtain rfl := eligible.eq again
          obtain ⟨rfl, same⟩ := sought.agree alike found
          cases same
          exact ⟨rfl, Update.Blind.built (blind.toUpdate release _)⟩

/-- Where the network tells the same, the same is asked, and what is offered looks the same to a view
that does not see the clock. -/
theorem Offers.agree (alike : network.TellsAlike earlier other before)
    (blind : Update.Blind view now later) {offer result : Except (Halt CheckError) Update}
    (one : Offers network earlier now endpoint asked offer)
    (two : Offers other before later endpoint wanted result) :
    asked = wanted ∧ offer.map view = result.map view := by
  have same := alike.reply
  cases one with
  | insecure insecure => cases two <;> simp_all
  | unanswered secure replied => cases two <;> simp_all
  | unreadable secure replied parsed => cases two <;> simp_all
  | native secure replied parsed =>
      cases two with
      | native _ told again =>
          rw [same, told] at replied
          cases replied
          cases parsed.symm.trans again
          exact ⟨rfl, Update.Blind.built (blind _)⟩
      | insecure | unanswered | unreadable | hosted => simp_all
  | hosted secure replied parsed hosts =>
      cases two with
      | hosted _ told again hosted =>
          rw [same, told] at replied
          cases replied
          cases parsed.symm.trans again
          obtain ⟨rfl, viewed⟩ := hosts.agree (alike.after _) blind hosted
          exact ⟨rfl, viewed⟩
      | insecure | unanswered | unreadable | native => simp_all

end Check

end SelfUpdate
