import ChannelSync.Convergence
import ChannelSync.Text.WholeNumber

/-
  Settings and assembly.

  The settings come from environment variables, whose names
  are matched without regard to case.  `Assembly.build` puts
  a reconciler together from settings and a token.

  Key definitions include:
    * `Settings`
    * `Settings.ofEnvironment`
    * `Settings.limits`
    * `Assembly.build`
-/

------------------------------------------------------------
-- Settings
------------------------------------------------------------

namespace ChannelSync

structure Settings where
  token : String := ""
  channelPageSize : Int := 200
  memberPageSize : Int := 1000
  logLevel : String := "INFO"
deriving DecidableEq, Inhabited

/- The settings that are numbers. -/
inductive PageSetting where
  | channelPageSize
  | memberPageSize
deriving DecidableEq

/- Why a page size is refused. -/
inductive SizeError where
  | unreadable (defect : WholeNumber.Defect)
  | notPositive
deriving DecidableEq

end ChannelSync

------------------------------------------------------------
-- Page Sizes
------------------------------------------------------------

namespace ChannelSync

namespace PageSetting

/- The name of a setting. -/
def name : PageSetting → String
  | channelPageSize => "channel_page_size"
  | memberPageSize => "member_page_size"

/- The variable that a setting comes from. -/
def variableName : PageSetting → String
  | channelPageSize => "channelop_channel_page_size"
  | memberPageSize => "channelop_member_page_size"

/- The value of a setting whose variable is not set. -/
def default : PageSetting → Int
  | channelPageSize => 200
  | memberPageSize => 1000

end PageSetting

namespace SizeError

/- The name of an error. -/
def name : SizeError → String
  | unreadable .malformed => "int_parsing"
  | unreadable .tooLong => "int_parsing_size"
  | notPositive => "greater_than"

end SizeError

/- Read a page size, which must be positive. -/
def pageSize?
    (text : String) :
    Except SizeError Int :=
  match WholeNumber.read text with
  | .error defect => .error (.unreadable defect)
  | .ok n =>
      if 0 < n then .ok n else .error .notPositive

end ChannelSync

------------------------------------------------------------
-- Reading Settings
------------------------------------------------------------

namespace ChannelSync

namespace Settings

/-
  The lower-case form of a letter, if that is in ASCII: the
  letters A to Z have one, and so does the Kelvin sign.
-/
def lowerChar
    (c : Char) :
    Char :=
  if c == '\u212a' then 'k' else c.toLower

/- The lower-case form of a variable name. -/
def lower
    (name : String) :
    String :=
  String.ofList (name.toList.map lowerChar)

/- The last value that an environment has for a variable. -/
def valueOf?
    (environment : List (String × String))
    (name : String) :
    Option String :=
  (environment.reverse.find? fun entry =>
      decide (lower entry.1 = name)).map
    fun entry => entry.2

/- The value of a number setting. -/
def size
    (environment : List (String × String))
    (setting : PageSetting) :
    Except SizeError Int :=
  match valueOf? environment setting.variableName with
  | none => .ok setting.default
  | some text => pageSize? text

/-
  The settings of an environment, or all the page sizes that
  are refused, in the order of their names.
-/
def ofEnvironment
    (environment : List (String × String)) :
    Except (List (PageSetting × SizeError)) Settings :=
  let channels := size environment .channelPageSize
  let members := size environment .memberPageSize
  match channels, members with
  | .ok channelSize, .ok memberSize =>
      .ok
        { token :=
            (valueOf? environment
              "slack_api_token").getD ""
          channelPageSize := channelSize
          memberPageSize := memberSize
          logLevel :=
            (valueOf? environment
              "channelop_log_level").getD "INFO" }
  | .error e, .ok _ => .error [(.channelPageSize, e)]
  | .ok _, .error e => .error [(.memberPageSize, e)]
  | .error e, .error e' =>
      .error
        [(.channelPageSize, e), (.memberPageSize, e')]

/-
  The page sizes of a reconciler.  A size that is not truthy
  leaves the choice to the settings.
-/
def limits
    (settings : Settings)
    (channels members : Datum) :
    Limits where
  channels :=
    channels.orElse (.number settings.channelPageSize)
  members :=
    members.orElse (.number settings.memberPageSize)

end Settings

end ChannelSync

------------------------------------------------------------
-- Assembly
------------------------------------------------------------

namespace ChannelSync

/- A reconciler on the web API, ready for use. -/
structure Assembly where
  token : String
  limits : Limits
deriving DecidableEq

namespace Assembly

/- The fault of an assembly without a token. -/
def noToken : Fault :=
  .badValue
    ("No Slack API token configured " ++
      "(set SLACK_API_TOKEN)")

/-
  Put a reconciler together.  The token is the given one, or
  that of the settings, without blanks at its ends.
-/
def build
    (settings : Settings)
    (token : Datum) :
    Program Assembly :=
  match token.orElse (.text settings.token) with
  | .text s =>
      if s = "" then
        Program.abort noToken
      else do
        Program.record .ready
        return {
          token :=
            String.ofList (trimmed isTrimmed s.toList)
          limits := settings.limits .null .null }
  | _ => Program.abort .unsupported

end Assembly

end ChannelSync
