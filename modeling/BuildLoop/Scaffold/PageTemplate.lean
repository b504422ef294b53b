import BuildLoop.Text.Search

/-!
# Templates of pages

Whole files with the placeholders `__TITLE__`, `__LINKS__` and `__SCRIPTS__`.
-/

namespace BuildLoop.Scaffold.Template

/-- A page. -/
def page : String := Text.unlines [
  "<!DOCTYPE html>",
  "<html lang=\"en\">",
  "<head>",
  "    <meta charset=\"UTF-8\">",
  "    <meta name=\"viewport\" content=\"width=device-width, initial-scale=1.0\">",
  "    <title>__TITLE__</title>",
  "__LINKS__",
  "</head>",
  "<body>",
  "    <main id=\"app\" class=\"container\">",
  "        <header>",
  "            <h1>__TITLE__</h1>",
  "            <p id=\"status\" class=\"status\" role=\"status\"></p>",
  "        </header>",
  "        <form id=\"item-form\" class=\"item-form\">",
  "            <input id=\"item-input\" type=\"text\" placeholder=\"Enter a value\" autocomplete=\"off\" required>",
  "            <button id=\"submit-btn\" type=\"submit\">Add</button>",
  "        </form>",
  "        <ul id=\"item-list\" class=\"item-list\"></ul>",
  "        <div id=\"output\" class=\"output\"></div>",
  "    </main>",
  "__SCRIPTS__",
  "</body>",
  "</html>"]

/-- A stylesheet. -/
def stylesheet : String := Text.unlines [
  "/* __TITLE__ */",
  "",
  "* \x7b",
  "    box-sizing: border-box;",
  "    margin: 0;",
  "    padding: 0;",
  "\x7d",
  "",
  "body \x7b",
  "    font-family: -apple-system, BlinkMacSystemFont, \"Segoe UI\", Roboto, sans-serif;",
  "    line-height: 1.5;",
  "    color: #1f2933;",
  "    background: #f5f7fa;",
  "    min-height: 100vh;",
  "    display: flex;",
  "    justify-content: center;",
  "    align-items: flex-start;",
  "    padding: 3rem 1rem;",
  "\x7d",
  "",
  ".container \x7b",
  "    width: 100%;",
  "    max-width: 560px;",
  "    background: #ffffff;",
  "    border-radius: 12px;",
  "    box-shadow: 0 4px 20px rgba(0, 0, 0, 0.08);",
  "    padding: 2rem;",
  "\x7d",
  "",
  "h1 \x7b",
  "    font-size: 1.75rem;",
  "    margin-bottom: 0.5rem;",
  "\x7d",
  "",
  ".status \x7b",
  "    min-height: 1.5rem;",
  "    font-size: 0.9rem;",
  "    color: #52606d;",
  "\x7d",
  "",
  ".status.error \x7b",
  "    color: #c62828;",
  "\x7d",
  "",
  ".item-form \x7b",
  "    display: flex;",
  "    gap: 0.5rem;",
  "    margin: 1rem 0;",
  "\x7d",
  "",
  ".item-form input \x7b",
  "    flex: 1;",
  "    padding: 0.6rem 0.8rem;",
  "    border: 1px solid #cbd2d9;",
  "    border-radius: 6px;",
  "    font-size: 1rem;",
  "\x7d",
  "",
  ".item-form input:focus \x7b",
  "    outline: none;",
  "    border-color: #3f51b5;",
  "\x7d",
  "",
  "button \x7b",
  "    padding: 0.6rem 1.2rem;",
  "    border: none;",
  "    border-radius: 6px;",
  "    background: #3f51b5;",
  "    color: #ffffff;",
  "    font-size: 1rem;",
  "    cursor: pointer;",
  "\x7d",
  "",
  "button:hover \x7b",
  "    background: #303f9f;",
  "\x7d",
  "",
  "button:disabled \x7b",
  "    background: #9fa8da;",
  "    cursor: not-allowed;",
  "\x7d",
  "",
  ".item-list \x7b",
  "    list-style: none;",
  "\x7d",
  "",
  ".item-list li \x7b",
  "    padding: 0.6rem 0;",
  "    border-bottom: 1px solid #e4e7eb;",
  "\x7d",
  "",
  ".output \x7b",
  "    margin-top: 1rem;",
  "    font-weight: 600;",
  "\x7d",
  "",
  "@media (max-width: 480px) \x7b",
  "    .container \x7b",
  "        padding: 1.25rem;",
  "    \x7d",
  "",
  "    .item-form \x7b",
  "        flex-direction: column;",
  "    \x7d",
  "\x7d"]

/-- A script that keeps everything in the browser. -/
def localScript : String := Text.unlines [
  "'use strict';",
  "",
  "// __TITLE__: runs entirely in the browser.",
  "",
  "const items = [];",
  "",
  "function setStatus(message, isError) \x7b",
  "    const status = document.getElementById('status');",
  "    if (!status) \x7b",
  "        return;",
  "    \x7d",
  "    status.textContent = message;",
  "    status.className = isError ? 'status error' : 'status';",
  "\x7d",
  "",
  "function render() \x7b",
  "    const list = document.getElementById('item-list');",
  "    if (list) \x7b",
  "        list.innerHTML = '';",
  "        items.forEach(function (item) \x7b",
  "            const li = document.createElement('li');",
  "            li.textContent = item.name;",
  "            list.appendChild(li);",
  "        \x7d);",
  "    \x7d",
  "    const output = document.getElementById('output');",
  "    if (output) \x7b",
  "        output.textContent = items.length + ' item(s)';",
  "    \x7d",
  "\x7d",
  "",
  "function addItem(name) \x7b",
  "    items.push(\x7b id: items.length + 1, name: name, createdAt: new Date().toISOString() \x7d);",
  "    setStatus('Added \"' + name + '\"', false);",
  "    render();",
  "\x7d",
  "",
  "document.addEventListener('DOMContentLoaded', function () \x7b",
  "    const form = document.getElementById('item-form');",
  "    const input = document.getElementById('item-input');",
  "    if (form && input) \x7b",
  "        form.addEventListener('submit', function (event) \x7b",
  "            event.preventDefault();",
  "            const value = input.value.trim();",
  "            if (!value) \x7b",
  "                setStatus('Please enter a value', true);",
  "                return;",
  "            \x7d",
  "            addItem(value);",
  "            input.value = '';",
  "        \x7d);",
  "    \x7d",
  "    render();",
  "\x7d);"]

/-- A script that talks to a server. -/
def serverScript : String := Text.unlines [
  "'use strict';",
  "",
  "// __TITLE__: talks to the backend API.",
  "",
  "const API_BASE = 'http://localhost:8000';",
  "",
  "function setStatus(message, isError) \x7b",
  "    const status = document.getElementById('status');",
  "    if (!status) \x7b",
  "        return;",
  "    \x7d",
  "    status.textContent = message;",
  "    status.className = isError ? 'status error' : 'status';",
  "\x7d",
  "",
  "function renderItems(items) \x7b",
  "    const list = document.getElementById('item-list');",
  "    if (!list) \x7b",
  "        return;",
  "    \x7d",
  "    list.innerHTML = '';",
  "    items.forEach(function (item) \x7b",
  "        const li = document.createElement('li');",
  "        li.textContent = item.name;",
  "        list.appendChild(li);",
  "    \x7d);",
  "    const output = document.getElementById('output');",
  "    if (output) \x7b",
  "        output.textContent = items.length + ' item(s)';",
  "    \x7d",
  "\x7d",
  "",
  "async function request(path, options) \x7b",
  "    const response = await fetch(API_BASE + path, options);",
  "    if (!response.ok) \x7b",
  "        throw new Error('HTTP ' + response.status);",
  "    \x7d",
  "    return response.json();",
  "\x7d",
  "",
  "async function loadItems() \x7b",
  "    try \x7b",
  "        renderItems(await request('/api/items'));",
  "        setStatus('', false);",
  "    \x7d catch (err) \x7b",
  "        setStatus('Could not reach the server: ' + err.message, true);",
  "    \x7d",
  "\x7d",
  "",
  "async function addItem(name) \x7b",
  "    try \x7b",
  "        await request('/api/items', \x7b",
  "            method: 'POST',",
  "            headers: \x7b 'Content-Type': 'application/json' \x7d,",
  "            body: JSON.stringify(\x7b name: name \x7d)",
  "        \x7d);",
  "        setStatus('Saved \"' + name + '\"', false);",
  "        await loadItems();",
  "    \x7d catch (err) \x7b",
  "        setStatus('Could not save: ' + err.message, true);",
  "    \x7d",
  "\x7d",
  "",
  "document.addEventListener('DOMContentLoaded', function () \x7b",
  "    const form = document.getElementById('item-form');",
  "    const input = document.getElementById('item-input');",
  "    if (form && input) \x7b",
  "        form.addEventListener('submit', function (event) \x7b",
  "            event.preventDefault();",
  "            const value = input.value.trim();",
  "            if (!value) \x7b",
  "                setStatus('Please enter a value', true);",
  "                return;",
  "            \x7d",
  "            addItem(value);",
  "            input.value = '';",
  "        \x7d);",
  "    \x7d",
  "    loadItems();",
  "\x7d);"]

end BuildLoop.Scaffold.Template
