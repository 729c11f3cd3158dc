/-!
# The landing page

The page that tells visitors what the service does and how to add it.
-/

namespace SlashDice
namespace App

def landingLines : List String :=
  [ "<!DOCTYPE html>\n",
    "<html lang=\"en\">\n",
    "<head>\n",
    "  <meta charset=\"utf-8\">\n",
    "  <meta name=\"viewport\" content=\"width=device-width, initial-scale=1\">\n",
    "  <title>Dice Roll for Slack</title>\n",
    "  <style>\n",
    "    body \x7b font-family: -apple-system, BlinkMacSystemFont, \"Segoe UI\", sans-serif; max-width: 40rem; margin: 4rem auto; padding: 0 1rem; color: #1d1c1d; \x7d\n",
    "    code \x7b background: #f4f4f4; padding: 0.1rem 0.3rem; border-radius: 3px; \x7d\n",
    "  </style>\n",
    "</head>\n",
    "<body>\n",
    "  <h1>Dice Roll</h1>\n",
    "  <p>Roll dice right inside Slack.</p>\n",
    "  <p>\n",
    "    <a href=\"/install\"><img alt=\"Add to Slack\" height=\"40\" width=\"139\"\n",
    "      src=\"https://platform.slack-edge.com/img/add_to_slack.png\"\n",
    "      srcset=\"https://platform.slack-edge.com/img/add_to_slack.png 1x, https://platform.slack-edge.com/img/add_to_slack@2x.png 2x\"></a>\n",
    "  </p>\n",
    "  <h2>Usage</h2>\n",
    "  <ul>\n",
    "    <li><code>/roll</code> rolls a d20</li>\n",
    "    <li><code>/roll 3d6</code> rolls three six-sided dice</li>\n",
    "    <li><code>/roll 2d8+5 sneak attack</code> adds a modifier and a reason</li>\n",
    "    <li><code>/roll help</code> shows usage in Slack</li>\n",
    "  </ul>\n",
    "</body>\n",
    "</html>\n" ]

def landingPage : String :=
  String.join landingLines

end App
end SlashDice
