import Persona.Environment
import Persona.Service.Twitter

/-!
# Posting with retries

A queue of tweets, each posted again and again until the rate limit lets it through.
-/

namespace Persona.Posting

/-- The settings read for the queue; they do not go into the environment. -/
def load : Act (List (String × String)) := do
  Act.need "tweepy"
  let pairs := Environment.settings (← Act.readFile Environment.file)
  return pairs.foldl (fun settings (key, value) => Fields.put settings key value) []

/-- A setting that must be there. -/
def required (settings : List (String × String)) (key : String) : Act String :=
  match Fields.get? settings key with
  | some value => pure value
  | none => throw (.mismatch (.noField key))

/-- Make a client from the settings. -/
def connect (settings : List (String × String)) : Act Unit := do
  let apiKey ← required settings "TWITTER_API_KEY"
  let apiSecret ← required settings "TWITTER_API_SECRET"
  let accessToken ← required settings "TWITTER_ACCESS_TOKEN"
  let accessSecret ← required settings "TWITTER_ACCESS_SECRET"
  Twitter.connect ⟨some apiKey, some apiSecret, some accessToken, some accessSecret, none⟩

/-- How one attempt to post ended. -/
inductive Attempt where
  /-- Posted under an id, as it is shown. -/
  | posted (id : String)
  | rateLimited
  | failed (reason : String)

def attempt (tweet : Json) : Act Attempt :=
  recover
    (do
      let id ← Twitter.post tweet none
      return .posted (← Act.shown id))
    fun f =>
    match f with
    | .rateLimited _ => return .rateLimited
    | f => return .failed f.message

/-- Try until the tweet is posted or refused for good, at most `left` more times; a rate limit is
waited out. -/
def tries (tweet retries delay : Json) (done : Nat) : Nat → Act String
  | 0 => return "❌ Max retries exceeded"
  | left + 1 => do
    match ← attempt tweet with
    | .posted id => return "✅ Posted: " ++ Twitter.statusUrl (.str id)
    | .failed reason => return "❌ Failed: " ++ reason
    | .rateLimited =>
      Act.print ("[" ++ (← Act.now).text ++ "] Rate limited, waiting " ++ (← Act.shown delay) ++
        "s... (attempt " ++ Number.natText (done + 1) ++ "/" ++ (← Act.shown retries) ++ ")")
      Act.sleepFor delay
      tries tweet retries delay (done + 1) left

/-- Post a tweet, trying at most `retries` times, which must be a whole number, with a pause after
each rate limit. -/
def postWithRetry (settings : List (String × String)) (tweet retries delay : Json) :
    Act String := do
  connect settings
  match retries.whole? with
  | some n => tries tweet retries delay 0 n.toNat
  | none => throw (.mismatch (.notACount retries.kindName))

/-- The tweets that wait. -/
def waiting : List String :=
  [Text.ofLines [
     "@elonmusk ", "", "Phi: a meta-language where grammar = implementation.", "",
     "• Shape errors in AI → compile-time errors", "• Linear types enforce no-cloning (quantum)",
     "• One spec → CUDA, ONNX, Metal, WebGPU", "", "Better than PyTorch. Better than Qiskit.",
     "", "github.com/eurisko-info-lab/phi"],
    Text.ofLines [
     "PyTorch shape errors at 3am? ", "", "In Phi, Tensor [32, 768] is a TYPE.",
     "Wrong dimensions = won't compile.", "",
     "Your loss function can't be NaN if your code can't run wrong shapes.", "",
     "github.com/eurisko-info-lab/phi"]]

/-- The file that keeps the outcome of each tweet. -/
def logFile : Path := Path.home.join "tweet_queue.log"

/-- Add an outcome to the log file. -/
def keep (result : String) : Act Unit := do
  let line := "[" ++ (← Act.now).text ++ "] " ++ result
  if ← Act.fileExists logFile then Act.writeFile logFile ((← Act.readFile logFile) ++ "\n" ++ line)
  else Act.writeFile logFile line

/-- Post the tweets of the queue one after the other. -/
def drain : Act Unit := do
  let settings ← load
  for (tweet, i) in waiting.zipIdx do
    Act.print ("\n[" ++ (← Act.now).text ++ "] Posting tweet " ++ Number.natText (i + 1) ++ "/" ++
      Number.natText waiting.length ++ "...")
    let result ← postWithRetry settings (.str tweet) (.int 50) (.int 300)
    Act.print result
    keep result
    if Text.contains result "✅" then Act.sleep (.whole 60)
  Act.print "\n✅ Queue complete!"

end Persona.Posting
