import Wording.RulesDocument

/-!
# The built-in rules

The rules that apply when no others are given.  They are kept as the text of a rules document,
which is also what a user gets to start a table of their own from.
-/

namespace Wording

/-- The built-in rules document. -/
def builtinText : String := r#"# Default tonecheck rule table.
#
# phrases: flagged wherever they appear (case-insensitive substring), with a
#          suggested rewrite.
# caution: flagged only as whole words (case-insensitive), advisory only.

version: "1"
name: "default"

phrases:
  - pattern: "Therapy"
    suggestion: "Skill-based support"
  - pattern: "Therapeutic exercise"
    suggestion: "Short settling activity"
  - pattern: "Treatment"
    suggestion: "Supportive practice"
  - pattern: "Clinical"
    suggestion: "School-appropriate"
  - pattern: "Diagnosis"
    suggestion: "Understanding patterns"
  - pattern: "Mental health issue"
    suggestion: "Everyday stress response"
  - pattern: "Psychological problem"
    suggestion: "Internal pressure"
  - pattern: "Disorder"
    suggestion: "Strong pattern"
  - pattern: "Symptoms"
    suggestion: "Signals"
  - pattern: "Trauma work"
    suggestion: "Gentle skill-building"
  - pattern: "You are anxious"
    suggestion: "You may feel unsettled"
  - pattern: "You are stressed"
    suggestion: "Things may feel heavy"
  - pattern: "You are overwhelmed"
    suggestion: "A lot may be happening inside"
  - pattern: "You are distracted"
    suggestion: "Focus can feel harder right now"
  - pattern: "You lack focus"
    suggestion: "Attention may be scattered"
  - pattern: "Emotionally unstable"
    suggestion: "Strong feelings can show up"
  - pattern: "Dysregulated"
    suggestion: "Hard to settle at the moment"
  - pattern: "Overreacting"
    suggestion: "Responding strongly"
  - pattern: "Too sensitive"
    suggestion: "Noticing things deeply"
  - pattern: "Problem student"
    suggestion: "Student needing support"
  - pattern: "At-risk student"
    suggestion: "Student needing extra care"
  - pattern: "Difficult child"
    suggestion: "Child having a hard moment"
  - pattern: "Fix your behaviour"
    suggestion: "Support settling before learning"
  - pattern: "Control your emotions"
    suggestion: "Allow feelings to move"
  - pattern: "Manage your emotions"
    suggestion: "Give emotions some space"
  - pattern: "Calm down"
    suggestion: "Take a short pause"
  - pattern: "Relax"
    suggestion: "Let the body ease a little"
  - pattern: "Stay calm"
    suggestion: "Go at your own pace"
  - pattern: "Be strong"
    suggestion: "Give yourself space"
  - pattern: "Be resilient"
    suggestion: "Move gently through this"
  - pattern: "Try harder"
    suggestion: "Do less, not more"
  - pattern: "Push through"
    suggestion: "Pause for a moment"
  - pattern: "Power through"
    suggestion: "Take a breather"
  - pattern: "Focus harder"
    suggestion: "Let focus come back naturally"
  - pattern: "Discipline yourself"
    suggestion: "Give yourself structure"
  - pattern: "Self-control"
    suggestion: "Self-awareness"
  - pattern: "Must"
    suggestion: "You can choose"
  - pattern: "Should"
    suggestion: "You might try"
  - pattern: "Required"
    suggestion: "Optional"
  - pattern: "Mandatory"
    suggestion: "Available if helpful"
  - pattern: "Do this now"
    suggestion: "When you are ready"
  - pattern: "Follow these steps"
    suggestion: "Here is one option"
  - pattern: "Complete the activity"
    suggestion: "Try this if you want"
  - pattern: "Don’t skip"
    suggestion: "You can stop anytime"
  - pattern: "Daily habit"
    suggestion: "One-time try"
  - pattern: "Commit to this"
    suggestion: "Come back if helpful"
  - pattern: "Stick to it"
    suggestion: "Use when it feels useful"
  - pattern: "Never skip"
    suggestion: "No requirement"
  - pattern: "Track your progress"
    suggestion: "Notice what helps"
  - pattern: "Measure improvement"
    suggestion: "Pay attention to how it feels"
  - pattern: "Evaluate yourself"
    suggestion: "Simply observe"
  - pattern: "Test your emotions"
    suggestion: "Check in gently"
  - pattern: "Improve performance"
    suggestion: "Support learning readiness"
  - pattern: "Boost productivity"
    suggestion: "Reduce internal noise"
  - pattern: "Achieve results"
    suggestion: "Notice small shifts"
  - pattern: "Master this skill"
    suggestion: "Try it once"
  - pattern: "Optimize focus"
    suggestion: "Support focus"
  - pattern: "High-performing students"
    suggestion: "Students learn differently"
  - pattern: "Normal students"
    suggestion: "Every student is different"
  - pattern: "Better than others"
    suggestion: "No comparison needed"
  - pattern: "Falling behind"
    suggestion: "Moving at your own pace"
  - pattern: "Catch up"
    suggestion: "Take one step"
  - pattern: "Weak mindset"
    suggestion: "Tired system"
  - pattern: "Lazy"
    suggestion: "Low energy moment"
  - pattern: "Not trying"
    suggestion: "Carrying a lot"
  - pattern: "Poor coping"
    suggestion: "Still learning skills"
  - pattern: "Emotional weakness"
    suggestion: "Strong internal experience"
  - pattern: "Breakdown"
    suggestion: "Overload moment"
  - pattern: "Meltdown"
    suggestion: "Big reaction"
  - pattern: "Out of control"
    suggestion: "Feeling unsteady"
  - pattern: "Share your feelings"
    suggestion: "Keep this private"
  - pattern: "Open up"
    suggestion: "Notice internally"
  - pattern: "Talk about your trauma"
    suggestion: "Stay with what feels safe"
  - pattern: "Express everything"
    suggestion: "Share only if you choose"
  - pattern: "Be vulnerable"
    suggestion: "Stay comfortable"
  - pattern: "Reveal your emotions"
    suggestion: "Quiet reflection"
  - pattern: "Amygdala hijack"
    suggestion: "Body reacting"
  - pattern: "Cortisol spike"
    suggestion: "Stress response"
  - pattern: "Brain malfunction"
    suggestion: "Body under pressure"
  - pattern: "Nervous system disorder"
    suggestion: "Busy nervous system"
  - pattern: "Emotional regulation problem"
    suggestion: "Learning regulation skills"
  - pattern: "Coping mechanism"
    suggestion: "Supportive habit"
  - pattern: "Triggered"
    suggestion: "Something felt familiar"
  - pattern: "Trauma response"
    suggestion: "Protective response"
  - pattern: "Deep emotional work"
    suggestion: "Gentle skill practice"
  - pattern: "Inner healing"
    suggestion: "Creating ease"
  - pattern: "Fix yourself"
    suggestion: "Nothing to fix"
  - pattern: "Heal yourself"
    suggestion: "Allow settling"
  - pattern: "Eliminate stress"
    suggestion: "Reduce pressure"
  - pattern: "Get rid of feelings"
    suggestion: "Let feelings pass"
  - pattern: "Earn points for calm"
    suggestion: "Notice personal ease"
  - pattern: "Lose progress"
    suggestion: "No tracking involved"
  - pattern: "Reward for focus"
    suggestion: "Feeling more settled"
  - pattern: "Punishment for skipping"
    suggestion: "Always optional"
  - pattern: "Success looks like"
    suggestion: "This may feel helpful"
  - pattern: "Failure to complete"
    suggestion: "You can stop anytime"
  - pattern: "Correct response"
    suggestion: "Any response is okay"
  - pattern: "Right way to feel"
    suggestion: "No right or wrong"
  - pattern: "Fix what’s wrong"
    suggestion: "Support what’s present"
  - pattern: "Improve yourself"
    suggestion: "Learn about yourself"
  - pattern: "Mental health"
    suggestion: "Everyday stress response (contextual)"
  - pattern: "Trauma"
    suggestion: "Gentle skill-building (contextual)"

caution:
  - "Fix"
  - "Correct"
  - "Heal"
  - "Treat"
  - "Cure"
  - "Diagnose"
  - "Therapy"
  - "Disorder"
  - "Dysfunction"
  - "Behaviour management"
"#

/-- The built-in rules document, read. -/
def builtinDocument : Except RulesFault RulesDocument :=
  RulesDocument.read builtinText

end Wording
