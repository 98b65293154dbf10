/-!
# Settings

What has to be known to ask the cloud. Each source, the command line or a file, gives some of it; what
the first leaves out the second fills in, and what both leave out has a default or is an error.
-/

namespace NodeLookup

/-- One of the settings. -/
inductive SettingKey where
  | providerName
  | endpoint
  | region
  | projectId
  | authToken
  | requestTimeout
deriving DecidableEq, Repr, Inhabited

namespace SettingKey

/-- All settings, in the order of the list form. -/
def all : List SettingKey :=
  [providerName, endpoint, region, projectId, authToken, requestTimeout]

end SettingKey

/-- Some of the settings, as one source gives them. -/
structure PartialSettings where
  providerName : Option String := none
  endpoint : Option String := none
  /-- The region, by which the endpoint is found if it is not given. -/
  region : Option String := none
  projectId : Option String := none
  authToken : Option String := none
  requestTimeout : Option Nat := none
deriving DecidableEq, Repr, Inhabited

/-- All of the settings. -/
structure Settings where
  providerName : String
  endpoint : String
  region : Option String
  projectId : String
  authToken : Option String
  requestTimeout : Nat
deriving DecidableEq, Repr, Inhabited

/-- Why there are no settings, or the machine has no name. -/
inductive SettingsError where
  | unopened (path : String)
  | unparsed (path : String)
  | noEndpoint
  | noProject
  | unreadHostname
  | foreignHostname
deriving DecidableEq, Repr, Inhabited

/-- The words of a message for what is missing. -/
def SettingsError.describe : SettingsError → String
  | unopened path => "unable to open cloud config " ++ path
  | unparsed path => "unable to parse cloud config " ++ path
  | noEndpoint => "an ECS endpoint or a region must be configured"
  | noProject => "a project ID must be configured"
  | unreadHostname => "unable to read the hostname"
  | foreignHostname => "invalid utf-8 hostname string"

/-- A text that is given and not empty. -/
def nonempty? (text : Option String) : Option String := text.filter (· != "")

namespace PartialSettings

/-- Fills in what the first source leaves out from the second. -/
def or (first second : PartialSettings) : PartialSettings where
  providerName := first.providerName.or second.providerName
  endpoint := first.endpoint.or second.endpoint
  region := first.region.or second.region
  projectId := first.projectId.or second.projectId
  authToken := first.authToken.or second.authToken
  requestTimeout := first.requestTimeout.or second.requestTimeout

end PartialSettings

namespace Settings

/-- The provider whose IDs are read if no other is named. -/
def defaultProviderName : String := "huaweicloud"

/-- How many seconds an answer may take if nothing else is said. -/
def defaultTimeout : Nat := 30

/-- The public endpoint of a region. -/
def regionEndpoint (region : String) : String := "https://ecs." ++ region ++ ".myhuaweicloud.com"

/-- The settings that some settings make, or why they make none. A missing endpoint counts before a
missing project. -/
def ofMerged (merged : PartialSettings) : Except SettingsError Settings :=
  let region := nonempty? merged.region
  match (nonempty? merged.endpoint).or (region.map regionEndpoint), nonempty? merged.projectId with
  | none, _ => .error .noEndpoint
  | some _, none => .error .noProject
  | some endpoint, some projectId =>
    .ok {
      providerName := merged.providerName.getD defaultProviderName
      endpoint
      region
      projectId
      authToken := nonempty? merged.authToken
      requestTimeout := merged.requestTimeout.getD defaultTimeout }

/-- The settings that the command line and a file make together, the command line first. -/
def resolve (flags file : PartialSettings) : Except SettingsError Settings := ofMerged (flags.or file)

end Settings

end NodeLookup
