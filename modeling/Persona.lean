import Persona.Audience.Growth
import Persona.Audience.Library
import Persona.Broadcast.Articles
import Persona.Broadcast.Basic
import Persona.Calculation
import Persona.Campaign.Basic
import Persona.Campaign.Messages
import Persona.Chance
import Persona.Companion.Basic
import Persona.Companion.Chat
import Persona.Companion.CommandLine
import Persona.Companion.Help
import Persona.Companion.Instructions
import Persona.Companion.Issues
import Persona.Companion.Mentions
import Persona.Delivery.Exchange
import Persona.Delivery.Push
import Persona.Environment
import Persona.Fault
import Persona.Fields
import Persona.Files.Path
import Persona.Files.Tree
import Persona.Gateway.Address
import Persona.Gateway.ByteRange
import Persona.Gateway.Decomposition
import Persona.Gateway.Destination
import Persona.Gateway.FormParts
import Persona.Gateway.Freshness
import Persona.Gateway.HeaderDate
import Persona.Gateway.HostLetter
import Persona.Gateway.HostName
import Persona.Gateway.MediaType
import Persona.Gateway.Normal
import Persona.Gateway.NumericHost
import Persona.Gateway.Punycode
import Persona.Gateway.Request
import Persona.Gateway.Route
import Persona.Json.Access
import Persona.Json.Basic
import Persona.Json.Bytes
import Persona.Json.Order
import Persona.Json.Reader
import Persona.Json.Writer
import Persona.Lineage.Life
import Persona.Lineage.Member
import Persona.Lineage.Settings
import Persona.Main
import Persona.Mention.Cursor
import Persona.Mention.Inbox
import Persona.Mention.Responder
import Persona.Mention.Topic
import Persona.Mention.Watch
import Persona.Number.Binary
import Persona.Number.Numeral
import Persona.Number.Quantity
import Persona.Number.Reading
import Persona.Number.Shortest
import Persona.Posting.Retry
import Persona.Program
import Persona.Proofs.Audience.Threads
import Persona.Proofs.Broadcast.Containment
import Persona.Proofs.Campaign.Backoff
import Persona.Proofs.Campaign.Containment
import Persona.Proofs.Campaign.Retrying
import Persona.Proofs.Companion.Abridging
import Persona.Proofs.Companion.Attempts
import Persona.Proofs.Companion.Commenting
import Persona.Proofs.Companion.Questions
import Persona.Proofs.Companion.Responding
import Persona.Proofs.Delivery.Unsigned
import Persona.Proofs.Environment
import Persona.Proofs.Fields
import Persona.Proofs.Files.Names
import Persona.Proofs.Files.Places
import Persona.Proofs.Halting
import Persona.Proofs.Json.Comparing
import Persona.Proofs.Json.Flow
import Persona.Proofs.Json.Grammar
import Persona.Proofs.Json.Limits
import Persona.Proofs.Json.Numerals
import Persona.Proofs.Json.Quoting
import Persona.Proofs.Json.Roundtrip
import Persona.Proofs.Json.Spelling
import Persona.Proofs.Lineage.Additions
import Persona.Proofs.Lineage.Birth
import Persona.Proofs.Lineage.Defaults
import Persona.Proofs.Lineage.Deployment
import Persona.Proofs.Lineage.Halting
import Persona.Proofs.Lineage.Interruption
import Persona.Proofs.Lineage.Inward
import Persona.Proofs.Lineage.Overlooked
import Persona.Proofs.Lineage.Rests
import Persona.Proofs.Lineage.Sharing
import Persona.Proofs.Lineage.Startup
import Persona.Proofs.Mention.BlueskyFilter
import Persona.Proofs.Mention.Checks
import Persona.Proofs.Mention.Composing
import Persona.Proofs.Mention.CursorFile
import Persona.Proofs.Mention.Delivery
import Persona.Proofs.Mention.ExactlyOnce
import Persona.Proofs.Mention.FailedCheck
import Persona.Proofs.Mention.RateLimit
import Persona.Proofs.Mention.SharedCursors
import Persona.Proofs.Number.Bounded
import Persona.Proofs.Number.Digits
import Persona.Proofs.Number.Dividing
import Persona.Proofs.Number.Order
import Persona.Proofs.Number.Quotients
import Persona.Proofs.Number.Rounding
import Persona.Proofs.Outcome
import Persona.Proofs.Posting.Retrying
import Persona.Proofs.Psyche.Drifting
import Persona.Proofs.Psyche.Elapsed
import Persona.Proofs.Psyche.Fading
import Persona.Proofs.Psyche.Hindsight
import Persona.Proofs.Psyche.Interests
import Persona.Proofs.Psyche.Inward
import Persona.Proofs.Psyche.Journal
import Persona.Proofs.Psyche.Moods
import Persona.Proofs.Psyche.Rested
import Persona.Proofs.Psyche.Sound
import Persona.Proofs.Scribe.Announcing
import Persona.Proofs.Scribe.Fences
import Persona.Proofs.Scribe.Headers
import Persona.Proofs.Scribe.Keeping
import Persona.Proofs.Scribe.Passing
import Persona.Proofs.Scribe.Publishing
import Persona.Proofs.Scribe.Replying
import Persona.Proofs.Scribe.Shelving
import Persona.Proofs.Scribe.Submitting
import Persona.Proofs.Scribe.Tweeting
import Persona.Proofs.Scribe.Wrapping
import Persona.Proofs.Service.Polling
import Persona.Proofs.Service.Posting
import Persona.Proofs.Text.Ascii
import Persona.Proofs.Text.Bytes
import Persona.Proofs.Text.Joining
import Persona.Proofs.Text.Letters
import Persona.Proofs.Text.Searching
import Persona.Proofs.Text.Sizes
import Persona.Proofs.World.Abreast
import Persona.Proofs.World.Contacts
import Persona.Proofs.World.Effects
import Persona.Proofs.World.Ending
import Persona.Proofs.World.Halting
import Persona.Proofs.World.Interruption
import Persona.Proofs.World.Inward
import Persona.Proofs.World.KillSwitch
import Persona.Proofs.World.Leading
import Persona.Proofs.World.Notes
import Persona.Proofs.World.Recording
import Persona.Proofs.World.Running
import Persona.Proofs.World.Sleeping
import Persona.Proofs.World.Succession
import Persona.Psyche.Basic
import Persona.Psyche.Curiosity
import Persona.Psyche.Mood
import Persona.Psyche.Presentation
import Persona.Psyche.Reflection
import Persona.Psyche.Rest
import Persona.Psyche.Rhythm
import Persona.Psyche.Voice
import Persona.Scribe.Announcement
import Persona.Scribe.Basic
import Persona.Scribe.Conversation
import Persona.Scribe.Instructions
import Persona.Scribe.Question
import Persona.Scribe.Shelf
import Persona.Scribe.Spec
import Persona.Service.Bluesky
import Persona.Service.Twitter
import Persona.Signature.Hmac
import Persona.Signature.Sha256
import Persona.Text.Blank
import Persona.Text.Capital
import Persona.Text.Cased
import Persona.Text.CodePoint
import Persona.Text.Digit
import Persona.Text.Encoding
import Persona.Text.Hexadecimal
import Persona.Text.Lowercase
import Persona.Text.Percent
import Persona.Text.Printable
import Persona.Text.Quoted
import Persona.Text.Ranges
import Persona.Text.Search
import Persona.Text.Word
import Persona.Text.Wrap
import Persona.Time.Moment
import Persona.World.Act
import Persona.World.Basic
import Persona.World.Event
