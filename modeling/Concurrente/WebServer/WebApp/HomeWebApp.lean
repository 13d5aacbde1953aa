import Concurrente.Common.Conversions

/-!
# The start of a page

Every page starts with the same document header, up to its title.  The lines
are those of the source, where the rule of `.results-container` is not closed.
-/

namespace Concurrente.WebServer

/-- The lines in front of the title. -/
def documentHead : List String :=
  ["<!DOCTYPE html>",
    "<html lang='en'>",
    "<head>",
    "  <meta charset='utf-8'>",
    "  <meta name='viewport' content='width=device-width, initial-scale=1'>"]

/-- The style of every page. -/
def styleSheet : List String :=
  ["  <style>",
    "    :root \x7b",
    "      --primary: #4361ee;",
    "      --secondary: #3a0ca3;",
    "      --accent: #f72585;",
    "      --light: #f8f9fa;",
    "      --dark: #212529;",
    "      --success: #4cc9f0;",
    "      --error: #ef233c;",
    "      --border: #dee2e6;",
    "      --background: #f5f7ff;",
    "    \x7d",
    "    * \x7b",
    "      box-sizing: border-box;",
    "      margin: 0;",
    "      padding: 0;",
    "    \x7d",
    "    body \x7b",
    "      font-family: 'Segoe UI', Roboto, 'Helvetica Neue', sans-serif;",
    "      line-height: 1.6;",
    "      color: var(--dark);",
    "      background-color: var(--background);",
    "      padding: 20px;",
    "    \x7d",
    "    .container \x7b",
    "      max-width: 800px;",
    "      margin: 0 auto;",
    "      background: white;",
    "      border-radius: 10px;",
    "      box-shadow: 0 4px 6px rgba(0, 0, 0, 0.1);",
    "      padding: 30px;",
    "    \x7d",
    "    h1 \x7b",
    "      color: var(--secondary);",
    "      text-align: center;",
    "      margin-bottom: 30px;",
    "      font-weight: 600;",
    "      border-bottom: 2px solid var(--primary);",
    "      padding-bottom: 10px;",
    "    \x7d",
    "    .form-container \x7b",
    "      display: grid;",
    "      grid-template-columns: 1fr 1fr;",
    "      gap: 20px;",
    "      margin-bottom: 30px;",
    "    \x7d",
    "    .form-group \x7b",
    "      margin-bottom: 0;",
    "    \x7d",
    "    label \x7b",
    "      display: block;",
    "      margin-bottom: 8px;",
    "      font-weight: 500;",
    "      color: var(--secondary);",
    "    \x7d",
    "    input[type='text'] \x7b",
    "      width: 100%;",
    "      padding: 12px;",
    "      border: 2px solid var(--border);",
    "      border-radius: 6px;",
    "      font-size: 16px;",
    "      transition: border 0.3s;",
    "      margin-bottom: 10px;",
    "    \x7d",
    "    input[type='text']:focus \x7b",
    "      border-color: var(--primary);",
    "      outline: none;",
    "    \x7d",
    "    button \x7b",
    "      background-color: var(--primary);",
    "      color: white;",
    "      border: none;",
    "      padding: 12px 20px;",
    "      border-radius: 6px;",
    "      cursor: pointer;",
    "      font-size: 16px;",
    "      font-weight: 500;",
    "      transition: all 0.3s;",
    "      width: 100%;",
    "    \x7d",
    "    button:hover \x7b",
    "      background-color: var(--secondary);",
    "      transform: translateY(-2px);",
    "    \x7d",
    "    .help-text \x7b",
    "      text-align: center;",
    "      margin-top: 20px;",
    "      color: #666;",
    "      font-size: 14px;",
    "      line-height: 1.5;",
    "    \x7d",
    "    .results-container \x7b",
    "      background: white;",
    "      border-radius: 8px;",
    "      box-shadow: 0 2px 4px rgba(0,0,0,0.1);",
    "      padding: 25px;",
    "    .result-item \x7b",
    "      padding: 15px 0;",
    "    \x7d",
    "    .number-result \x7b",
    "      font-size: 1.2rem;",
    "      margin-bottom: 10px;",
    "    \x7d",
    "    .number-value \x7b",
    "      font-weight: bold;",
    "      color: var(--primary);",
    "    \x7d",
    "    .sums-count \x7b",
    "      color: var(--accent);",
    "      font-weight: bold;",
    "    \x7d",
    "    .sums-grid \x7b",
    "      display: grid;",
    "      grid-template-columns: repeat(auto-fill, minmax(200px, 1fr));",
    "      gap: 10px;",
    "      margin-top: 15px;",
    "    \x7d",
    "    .sum-item \x7b",
    "      background: #f0f4ff;",
    "      padding: 8px 12px;",
    "      border-radius: 6px;",
    "      border-left: 3px solid var(--accent);",
    "    \x7d",
    "    .factorization \x7b",
    "      font-size: 1.2rem;",
    "      line-height: 1.8;",
    "    \x7d",
    "    .factor \x7b",
    "      color: var(--primary);",
    "      font-weight: bold;",
    "    \x7d",
    "    .exponent \x7b",
    "      color: var(--accent);",
    "      font-size: 0.8rem;",
    "      position: relative;",
    "      top: -0.6em;",
    "      margin-left: 1px;",
    "    \x7d",
    "    .err \x7b",
    "      color: var(--error);",
    "    \x7d",
    "    .back-button \x7b",
    "      display: inline-block;",
    "      margin-top: 20px;",
    "      color: var(--primary);",
    "      text-decoration: none;",
    "      font-weight: 500;",
    "      padding: 8px 16px;",
    "      border: 1px solid var(--primary);",
    "      border-radius: 4px;",
    "      transition: all 0.3s;",
    "    \x7d",
    "    .back-button:hover \x7b",
    "      background-color: var(--primary);",
    "      color: white;",
    "      text-decoration: none;",
    "    \x7d",
    "    @media (max-width: 600px) \x7b",
    "      .form-container \x7b",
    "        grid-template-columns: 1fr;",
    "      \x7d",
    "      .container \x7b",
    "        padding: 20px;",
    "      \x7d",
    "      .sums-grid \x7b",
    "        grid-template-columns: 1fr;",
    "      \x7d",
    "    \x7d",
    "  </style>"]

/-- The lines between the style and the heading. -/
def documentBody : List String :=
  ["</head>",
    "<body>",
    "  <div class='container'>"]

/-- Lines as the body of a response receives them. -/
def pageLines (lines : List String) : Text :=
  lines.flatMap fun line => line.toList ++ ['\n']

/-- `HomeWebApp::serveHeader`: what it adds to the body of a response. -/
def serveHeader (title : Text) : Text :=
  pageLines documentHead ++ "  <title>".toList ++ title ++ "</title>\n".toList ++
    pageLines styleSheet ++ pageLines documentBody ++
    "    <h1>".toList ++ title ++ "</h1>\n".toList

end Concurrente.WebServer
